import HeaderNotes.Text.Blank
import HeaderNotes.Text.WordChar

/-!
Steps for reading a line from left to right. Each step takes the characters that are left and
returns what follows the piece it has read; a step that takes a run of characters always takes
the longest one.
-/

namespace HeaderNotes.Header

open HeaderNotes.Text

/-- ASCII letters, digits and the underscore. -/
def isNameChar (c : Char) : Bool :=
  c.isAlphanum || c == '_'

/-- Characters of an assignment target such as `window.app['save']`. -/
def isTargetChar (c : Char) : Bool :=
  isNameChar c || c == '.' || c == '$' || c == '[' || c == ']' || c == '\'' || c == '"'

def isIdentifierStart (c : Char) : Bool :=
  c.isAlpha || c == '_' || c == '$'

/-- Characters that may continue an identifier: word characters of any script and the dollar. -/
def isIdentifierRest (c : Char) : Bool :=
  isWordChar c || c == '$'

def after? : List Char → List Char → Option (List Char)
  | [], cs => some cs
  | _ :: _, [] => none
  | d :: ds, c :: cs => if d = c then after? ds cs else none

def keyword? (word : String) (cs : List Char) : Option (List Char) :=
  after? word.toList cs

def gap? : List Char → Option (List Char)
  | [] => none
  | c :: cs => if isBlank c then some (skipBlanks cs) else none

def run? (p : Char → Bool) : List Char → Option (List Char × List Char)
  | [] => none
  | c :: cs => if p c then some (c :: cs.takeWhile p, cs.dropWhile p) else none

def identifier? : List Char → Option (List Char × List Char)
  | [] => none
  | c :: cs =>
    if isIdentifierStart c then
      some (c :: cs.takeWhile isIdentifierRest, cs.dropWhile isIdentifierRest)
    else
      none

/-- The text between an opening parenthesis and the next closing one, and what follows. -/
def parameters? : List Char → Option (List Char × List Char)
  | '(' :: cs =>
    match cs.dropWhile (· != ')') with
    | _ :: rest => some (cs.takeWhile (· != ')'), rest)
    | [] => none
  | _ => none

def opensBlock (cs : List Char) : Bool :=
  match skipBlanks cs with
  | '\x7b' :: rest => rest.all isBlank
  | _ => false

end HeaderNotes.Header

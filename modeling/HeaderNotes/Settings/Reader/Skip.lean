import HeaderNotes.Settings.Reader.Number

/-!
Skipping a value whose key means nothing. Only its form is checked, with a stack of the brackets
that are still open.
-/

namespace HeaderNotes.Settings.Reader

inductive Bracket
  | list
  | object
deriving DecidableEq, Repr

def Bracket.closing : Bracket → Char
  | list => ']'
  | object => '\x7d'

/-- The problem of an input that ends inside a bracket. -/
def Bracket.endOf : Bracket → Problem
  | list => .endOfList
  | object => .endOfObject

/-- The problem of an item that is followed neither by a comma nor by the end. -/
def Bracket.expectedEnd : Bracket → Problem
  | list => .expectedListEnd
  | object => .expectedObjectEnd

/-- What follows the colon behind a key. -/
def colon (cs : List Char) : Except Stop (List Char) :=
  match skipSpace cs with
  | [] => .error (.atNext .endOfObject [])
  | c :: rest => if c = ':' then .ok rest else .error (.atNext .expectedColon (c :: rest))

/-- Skips what comes before a value inside a bracket: nothing, or a key and its colon. -/
def skipKey (b : Bracket) (cs : List Char) : Except Stop (List Char) :=
  match b with
  | .list => .ok cs
  | .object =>
    match skipSpace cs with
    | [] => .error (.atNext .endOfObject [])
    | c :: rest => do
      if c = '"' then colon (← skipText rest) else .error (.atNext .keyNotText (c :: rest))

/-- Skips a value that is no list and no object, from its first character on. -/
def skipScalar (c : Char) (cs : List Char) : Except Stop (List Char) :=
  if c = 'n' then literal "ull".toList cs
  else if c = 't' then literal "rue".toList cs
  else if c = 'f' then literal "alse".toList cs
  else if c = '-' then skipNumber cs
  else if c.isDigit then skipNumber (c :: cs)
  else if c = '"' then skipText cs
  else .error (.atNext .expectedValue (c :: cs))

/-- What a skipped value goes on with. -/
inductive Due
  | value
  /-- The first item of a bracket, or its end. -/
  | firstItem
  /-- A comma and a further item, or the end of the bracket. -/
  | furtherItem
deriving DecidableEq, Repr

/-- Skips on inside the open brackets, in at most the given number of rounds. -/
def skipWithin : Nat → Due → List Bracket → List Char → Except Stop (List Char)
  | 0, _, _, cs => .error (.atNext .endOfValue cs)
  | rounds + 1, .value, opened, cs =>
    match skipSpace cs with
    | [] => .error (.atNext .endOfValue [])
    | c :: rest => do
      if c = '[' then skipWithin rounds .firstItem (.list :: opened) rest
      else if c = '\x7b' then skipWithin rounds .firstItem (.object :: opened) rest
      else skipWithin rounds .furtherItem opened (← skipScalar c rest)
  | _ + 1, .firstItem, [], cs => .ok cs
  | _ + 1, .furtherItem, [], cs => .ok cs
  | rounds + 1, due, b :: opened, cs =>
    match skipSpace cs with
    | [] => .error (.atNext b.endOf [])
    | c :: rest => do
      if c = ',' ∧ due = .furtherItem then
        skipWithin rounds .value (b :: opened) (← skipKey b rest)
      else if c = b.closing then
        skipWithin rounds .furtherItem opened rest
      else if due = .furtherItem then
        .error (.atNext b.expectedEnd (c :: rest))
      else
        skipWithin rounds .value (b :: opened) (← skipKey b (c :: rest))

/-- Skips a value. There are at most two rounds a character. -/
def skipValue (cs : List Char) : Except Stop (List Char) :=
  skipWithin (2 * cs.length + 2) .value [] cs

end HeaderNotes.Settings.Reader

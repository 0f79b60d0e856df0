import HeaderNotes.Decimal.Shortest
import HeaderNotes.Text.Quoted

/-!
What can be wrong with a settings file, and where. A place is given by the number of bytes that
are left behind it.
-/

namespace HeaderNotes.Settings.Reader

/-- The kind of value that a place in the settings asks for. -/
inductive Shape
  | settings
  | noteSettings
  | list
  | text
  | boolean
  | count
  | nothing
deriving DecidableEq, Repr

def Shape.message : Shape → String
  | settings => "struct Config"
  | noteSettings => "struct NoteConfig"
  | list => "a sequence"
  | text => "a string"
  | boolean => "a boolean"
  | count => "usize"
  | nothing => "unit"

/-- A value that was found where another one was due. -/
inductive Found
  | null
  | boolean (b : Bool)
  | integer (n : Int)
  | float (x : Float)
  | text (s : String)
  | list
  | object

def Found.message : Found → String
  | null => "null"
  | boolean true => "boolean `true`"
  | boolean false => "boolean `false`"
  | integer n => "integer `" ++ toString n ++ "`"
  | float x => "floating point `" ++ Decimal.floatText x ++ "`"
  | text s => "string " ++ Text.quoted s
  | list => "sequence"
  | object => "map"

inductive Problem
  | endOfValue
  | endOfList
  | endOfObject
  | endOfText
  | expectedValue
  | expectedIdent
  | expectedColon
  | expectedListEnd
  | expectedObjectEnd
  | keyNotText
  | trailingComma
  | trailingCharacters
  | controlCharacter
  | invalidEscape
  | unexpectedEndOfEscape
  | loneSurrogate
  | invalidNumber
  | numberOutOfRange
  | invalidType (found : Found) (expected : Shape)
  | invalidValue (found : Found) (expected : Shape)
  | duplicateField (name : String)
  | unknownLocale (name : String)

def Problem.message : Problem → String
  | endOfValue => "EOF while parsing a value"
  | endOfList => "EOF while parsing a list"
  | endOfObject => "EOF while parsing an object"
  | endOfText => "EOF while parsing a string"
  | expectedValue => "expected value"
  | expectedIdent => "expected ident"
  | expectedColon => "expected `:`"
  | expectedListEnd => "expected `,` or `]`"
  | expectedObjectEnd => "expected `,` or `\x7d`"
  | keyNotText => "key must be a string"
  | trailingComma => "trailing comma"
  | trailingCharacters => "trailing characters"
  | controlCharacter => "control character (\\u0000-\\u001F) found while parsing a string"
  | invalidEscape => "invalid escape"
  | unexpectedEndOfEscape => "unexpected end of hex escape"
  | loneSurrogate => "lone leading surrogate in hex escape"
  | invalidNumber => "invalid number"
  | numberOutOfRange => "number out of range"
  | invalidType found expected =>
    "invalid type: " ++ found.message ++ ", expected " ++ expected.message
  | invalidValue found expected =>
    "invalid value: " ++ found.message ++ ", expected " ++ expected.message
  | duplicateField name => "duplicate field `" ++ name ++ "`"
  | unknownLocale name =>
    "unknown variant `" ++ name ++ "`, expected `english` or `arabic`"

/-- A problem, and how many bytes of the file are left behind the place it was found at. -/
structure Stop where
  problem : Problem
  left : Nat

def byteCount : List Char → Nat
  | [] => 0
  | c :: cs => c.utf8Size + byteCount cs

/-- A problem with what has been read so far. -/
def Stop.here (problem : Problem) (rest : List Char) : Stop :=
  ⟨problem, byteCount rest⟩

/-- A problem with the next byte, which counts as read if there is one. -/
def Stop.atNext (problem : Problem) (rest : List Char) : Stop :=
  ⟨problem, byteCount rest - 1⟩

/-- The line, counted from one, and the column in bytes of the place that has `left` bytes
behind it. -/
def place (text : String) (left : Nat) : Nat × Nat :=
  let bytes := text.toUTF8.toList
  let read := bytes.take (bytes.length - left)
  (1 + read.count 10, (read.reverse.takeWhile (· != 10)).length)

def Stop.message (stop : Stop) (text : String) : String :=
  let (line, column) := place text stop.left
  stop.problem.message ++ " at line " ++ toString line ++ " column " ++ toString column

/-- What reading a piece gives: its meaning and the characters behind it. -/
abbrev Parsed (α : Type) := α × List Char

end HeaderNotes.Settings.Reader

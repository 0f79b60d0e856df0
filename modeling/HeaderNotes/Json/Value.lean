/-!
JSON values and their written form: one item a line, two spaces of indentation a level, and
escapes only where the format demands them.
-/

namespace HeaderNotes.Json

inductive Value
  | bool (b : Bool)
  | number (n : Nat)
  | text (s : String)
  | list (items : List Value)
  | object (fields : List (String × Value))

/-- A character inside a text: quote, backslash and control characters are escaped. -/
def escapedChar (c : Char) : List Char :=
  if c = '"' then ['\\', '"']
  else if c = '\\' then ['\\', '\\']
  else if c = '\x08' then ['\\', 'b']
  else if c = '\t' then ['\\', 't']
  else if c = '\n' then ['\\', 'n']
  else if c = '\x0c' then ['\\', 'f']
  else if c = '\r' then ['\\', 'r']
  else if c.toNat < 0x20 then
    ['\\', 'u', '0', '0', Nat.digitChar (c.toNat / 16), Nat.digitChar (c.toNat % 16)]
  else [c]

def textChars (s : String) : List Char :=
  '"' :: s.toList.flatMap escapedChar ++ ['"']

/-- A line feed and the indentation of the given level. -/
def newline (level : Nat) : List Char :=
  '\n' :: List.replicate (2 * level) ' '

mutual

/-- The written form of a value that starts on the given level. -/
def Value.chars (level : Nat) : Value → List Char
  | .bool true => "true".toList
  | .bool false => "false".toList
  | .number n => Nat.toDigits 10 n
  | .text s => textChars s
  | .list [] => "[]".toList
  | .list (item :: items) =>
    '[' :: newline (level + 1) ++ item.chars (level + 1) ++ itemsChars (level + 1) items
      ++ newline level ++ [']']
  | .object [] => "\x7b\x7d".toList
  | .object ((key, value) :: fields) =>
    '\x7b' :: newline (level + 1) ++ textChars key ++ [':', ' '] ++ value.chars (level + 1)
      ++ fieldsChars (level + 1) fields ++ newline level ++ ['\x7d']

/-- The items behind the first one. -/
def itemsChars (level : Nat) : List Value → List Char
  | [] => []
  | item :: items => ',' :: newline level ++ item.chars level ++ itemsChars level items

def fieldsChars (level : Nat) : List (String × Value) → List Char
  | [] => []
  | (key, value) :: fields =>
    ',' :: newline level ++ textChars key ++ [':', ' '] ++ value.chars level
      ++ fieldsChars level fields

end

def Value.pretty (value : Value) : String :=
  String.ofList (value.chars 0)

end HeaderNotes.Json

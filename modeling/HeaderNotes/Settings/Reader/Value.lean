import HeaderNotes.Note.Locale
import HeaderNotes.Settings.Reader.Skip

/-!
Values of a settings file, read for the type that their place asks for. A value of another type
is read as what it is, so that the message can name it.
-/

namespace HeaderNotes.Settings.Reader

/-- Reads the value in front as what it is. Lists and objects are only looked at. -/
def found (cs : List Char) : Except Stop (Parsed Found) :=
  match cs with
  | [] => .error (.atNext .expectedValue [])
  | c :: rest => do
    if c = 'n' then .ok (.null, ← literal "ull".toList rest)
    else if c = 't' then .ok (.boolean true, ← literal "rue".toList rest)
    else if c = 'f' then .ok (.boolean false, ← literal "alse".toList rest)
    else if c = '-' then (number false rest).map fun (n, rest) => (n.found, rest)
    else if c.isDigit then (number true cs).map fun (n, rest) => (n.found, rest)
    else if c = '"' then (text rest).map fun (s, rest) => (.text s, rest)
    else if c = '[' then .ok (.list, cs)
    else if c = '\x7b' then .ok (.object, cs)
    else .error (.atNext .expectedValue cs)

/-- Refuses the value in front because another shape is due. -/
def mismatch {α : Type} (expected : Shape) (cs : List Char) : Except Stop (Parsed α) := do
  let (value, rest) ← found cs
  .error (.here (.invalidType value expected) rest)

def boolean (cs : List Char) : Except Stop (Parsed Bool) :=
  match skipSpace cs with
  | [] => .error (.atNext .endOfValue [])
  | c :: rest => do
    if c = 't' then .ok (true, ← literal "rue".toList rest)
    else if c = 'f' then .ok (false, ← literal "alse".toList rest)
    else mismatch .boolean (c :: rest)

def quotedText (cs : List Char) : Except Stop (Parsed String) :=
  match skipSpace cs with
  | [] => .error (.atNext .endOfValue [])
  | c :: rest => if c = '"' then text rest else mismatch .text (c :: rest)

/-- An unsigned integer of 64 bits. -/
def count (cs : List Char) : Except Stop (Parsed UInt64) :=
  let accept (read : Number × List Char) : Except Stop (Parsed UInt64) :=
    match read.1 with
    | .natural n => .ok (n.toUInt64, read.2)
    | .negative _ => .error (.here (.invalidValue read.1.found .count) read.2)
    | .float _ => .error (.here (.invalidType read.1.found .count) read.2)
  match skipSpace cs with
  | [] => .error (.atNext .endOfValue [])
  | c :: rest =>
    if c = '-' then (number false rest).bind accept
    else if c.isDigit then (number true (c :: rest)).bind accept
    else mismatch .count (c :: rest)

def nothing (cs : List Char) : Except Stop (Parsed Unit) :=
  match skipSpace cs with
  | [] => .error (.atNext .endOfValue [])
  | c :: rest => do
    if c = 'n' then .ok ((), ← literal "ull".toList rest) else mismatch .nothing (c :: rest)

def optional {α : Type} (read : List Char → Except Stop (Parsed α)) (cs : List Char) :
    Except Stop (Parsed (Option α)) :=
  match skipSpace cs with
  | 'n' :: rest => do .ok (none, ← literal "ull".toList rest)
  | _ => do
    let (a, rest) ← read cs
    .ok (some a, rest)

/-- The place of the next item of a list, if there is one. -/
def nextItem? (first : Bool) (cs : List Char) : Except Stop (Option (List Char)) :=
  match skipSpace cs with
  | [] => .error (.atNext .endOfList [])
  | c :: rest =>
    if c = ']' then
      .ok none
    else if first then
      .ok (some (c :: rest))
    else if c = ',' then
      match skipSpace rest with
      | [] => .error (.atNext .endOfValue [])
      | d :: rest =>
        if d = ']' then .error (.atNext .trailingComma (d :: rest)) else .ok (some (d :: rest))
    else
      .error (.atNext .expectedListEnd (c :: rest))

/-- The texts of a list up to its closing bracket, in at most the given number of rounds. -/
def textsWithin : Nat → Bool → List Char → Except Stop (Parsed (List String))
  | 0, _, cs => .error (.atNext .endOfList cs)
  | rounds + 1, first, cs => do
    match ← nextItem? first cs with
    | none => .ok ([], (skipSpace cs).tail)
    | some cs =>
      let (item, cs) ← quotedText cs
      let (items, cs) ← textsWithin rounds false cs
      .ok (item :: items, cs)

/-- A list of texts. Every item takes a character. -/
def texts (cs : List Char) : Except Stop (Parsed (List String)) :=
  match skipSpace cs with
  | [] => .error (.atNext .endOfValue [])
  | c :: rest =>
    if c = '[' then textsWithin (rest.length + 1) true rest else mismatch .list (c :: rest)

def localeNamed (read : String × List Char) : Except Stop (Parsed Locale) :=
  match Locale.ofName? read.1 with
  | some locale => .ok (locale, read.2)
  | none => .error (.here (.unknownLocale read.1) read.2)

/-- The key of an object that names a locale, behind the opening bracket. -/
def localeKey (cs : List Char) : Except Stop (Parsed String) :=
  match skipSpace cs with
  | [] => .error (.atNext .endOfObject [])
  | c :: rest =>
    if c = '"' then text rest
    else if c = '\x7d' then .error (.atNext .expectedValue (c :: rest))
    else .error (.atNext .keyNotText (c :: rest))

/-- A locale: its name, or an object whose one key is its name and whose value is null. -/
def locale (cs : List Char) : Except Stop (Parsed Locale) :=
  match skipSpace cs with
  | [] => .error (.atNext .endOfValue [])
  | c :: rest => do
    if c = '"' then
      localeNamed (← text rest)
    else if c = '\x7b' then
      let (locale, rest) ← localeNamed (← localeKey rest)
      let ((), rest) ← nothing (← colon rest)
      match skipSpace rest with
      | [] => .error (.here .endOfObject [])
      | c :: rest =>
        if c = '\x7d' then .ok (locale, rest) else .error (.here .expectedValue (c :: rest))
    else
      .error (.atNext .expectedValue (c :: rest))

end HeaderNotes.Settings.Reader

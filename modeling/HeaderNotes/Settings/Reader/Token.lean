import HeaderNotes.Settings.Reader.Problem

/-!
The smallest pieces of a settings file: white space, literal words, and texts with their escapes.
A text that is only skipped is checked less: its code units need not form characters.
-/

namespace HeaderNotes.Settings.Reader

def isSpace (c : Char) : Bool :=
  c == ' ' || c == '\t' || c == '\n' || c == '\r'

def skipSpace (cs : List Char) : List Char :=
  cs.dropWhile isSpace

/-- What follows the given rest of a literal word. -/
def literal : List Char → List Char → Except Stop (List Char)
  | [], cs => .ok cs
  | _ :: _, [] => .error (.here .endOfValue [])
  | d :: ds, c :: cs =>
    if d = c then literal ds cs else .error (.atNext .expectedIdent (c :: cs))

def hexDigit? (c : Char) : Option Nat :=
  if '0' ≤ c ∧ c ≤ '9' then some (c.toNat - 48)
  else if 'a' ≤ c ∧ c ≤ 'f' then some (c.toNat - 87)
  else if 'A' ≤ c ∧ c ≤ 'F' then some (c.toNat - 55)
  else none

/-- The code unit that four hexadecimal digits write. Four bytes have to be there, whatever
they are. -/
def codeUnit (cs : List Char) : Except Stop (Parsed Nat) :=
  if byteCount (cs.take 4) < 4 then
    .error (.here .endOfText [])
  else
    match cs with
    | a :: b :: c :: d :: rest =>
      match hexDigit? a, hexDigit? b, hexDigit? c, hexDigit? d with
      | some a, some b, some c, some d => .ok (((a * 16 + b) * 16 + c) * 16 + d, rest)
      | _, _, _, _ => .error ⟨.invalidEscape, byteCount cs - 4⟩
    | _ => .error ⟨.invalidEscape, byteCount cs - 4⟩

def isHighSurrogate (n : Nat) : Bool :=
  0xD800 ≤ n && n ≤ 0xDBFF

def isLowSurrogate (n : Nat) : Bool :=
  0xDC00 ≤ n && n ≤ 0xDFFF

/-- The escape that has to follow the first half of a character. -/
def secondHalf (high : Nat) (cs : List Char) : Except Stop (Parsed Char) :=
  match cs with
  | [] => .error (.here .endOfText [])
  | '\\' :: [] => .error (.here .endOfText [])
  | '\\' :: 'u' :: rest => do
    let (low, rest) ← codeUnit rest
    if isLowSurrogate low then
      .ok (Char.ofNat ((high - 0xD800) * 0x400 + (low - 0xDC00) + 0x10000), rest)
    else
      .error (.here .loneSurrogate rest)
  | '\\' :: rest => .error (.atNext .unexpectedEndOfEscape rest)
  | _ => .error (.atNext .unexpectedEndOfEscape cs)

/-- The character of a numeric escape, behind its `u`. -/
def numericEscape (cs : List Char) : Except Stop (Parsed Char) := do
  let (unit, rest) ← codeUnit cs
  if isLowSurrogate unit then .error (.here .loneSurrogate rest)
  else if isHighSurrogate unit then secondHalf unit rest
  else .ok (Char.ofNat unit, rest)

/-- The character that stands for another one behind a backslash. -/
def shortEscape? (c : Char) : Option Char :=
  if c = '"' then some '"'
  else if c = '\\' then some '\\'
  else if c = '/' then some '/'
  else if c = 'b' then some '\x08'
  else if c = 'f' then some '\x0c'
  else if c = 'n' then some '\n'
  else if c = 'r' then some '\r'
  else if c = 't' then some '\t'
  else none

/-- The character of an escape, behind its backslash. -/
def escape : List Char → Except Stop (Parsed Char)
  | [] => .error (.here .endOfText [])
  | c :: cs =>
    if c = 'u' then
      numericEscape cs
    else
      match shortEscape? c with
      | some d => .ok (d, cs)
      | none => .error (.atNext .invalidEscape (c :: cs))

/-- The text up to the closing quote, in at most the given number of rounds. -/
def textWithin : Nat → List Char → Except Stop (Parsed (List Char))
  | 0, cs => .error (.here .endOfText cs)
  | _ + 1, [] => .error (.here .endOfText [])
  | rounds + 1, c :: cs =>
    if c = '"' then
      .ok ([], cs)
    else if c = '\\' then do
      let (d, cs) ← escape cs
      let (text, cs) ← textWithin rounds cs
      .ok (d :: text, cs)
    else if c.toNat < 0x20 then
      .error (.here .controlCharacter cs)
    else do
      let (text, cs) ← textWithin rounds cs
      .ok (c :: text, cs)

/-- The text behind an opening quote. Every round takes a character. -/
def text (cs : List Char) : Except Stop (Parsed String) := do
  let (text, cs) ← textWithin (cs.length + 1) cs
  .ok (String.ofList text, cs)

def skipEscape : List Char → Except Stop (List Char)
  | [] => .error (.here .endOfText [])
  | c :: cs =>
    if c = 'u' then
      (codeUnit cs).map Prod.snd
    else
      match shortEscape? c with
      | some _ => .ok cs
      | none => .error (.atNext .invalidEscape (c :: cs))

def skipTextWithin : Nat → List Char → Except Stop (List Char)
  | 0, cs => .error (.here .endOfText cs)
  | _ + 1, [] => .error (.here .endOfText [])
  | rounds + 1, c :: cs =>
    if c = '"' then
      .ok cs
    else if c = '\\' then do
      skipTextWithin rounds (← skipEscape cs)
    else if c.toNat < 0x20 then
      .error (.here .controlCharacter (c :: cs))
    else
      skipTextWithin rounds cs

def skipText (cs : List Char) : Except Stop (List Char) :=
  skipTextWithin (cs.length + 1) cs

end HeaderNotes.Settings.Reader

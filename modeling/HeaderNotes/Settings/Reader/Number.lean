import HeaderNotes.Settings.Reader.Token

/-!
Numbers of a settings file. An integer that fits into 64 bits is kept as it is; anything else is
a double-precision number, built from the leading digits that fit and a power of ten.
-/

namespace HeaderNotes.Settings.Reader

inductive Number
  | natural (n : Nat)
  | negative (magnitude : Nat)
  | float (x : Float)

def Number.found : Number → Found
  | natural n => .integer n
  | negative n => .integer (-n)
  | float x => .float x

def digitValue (c : Char) : Nat :=
  c.toNat - 48

/-- Appends digits to a significand for as long as it fits into 64 bits. Returns it and the
number of digits that did not fit. -/
def appendDigits (significand : Nat) : List Char → Nat × Nat
  | [] => (significand, 0)
  | c :: cs =>
    let next := significand * 10 + digitValue c
    if next < UInt64.size then appendDigits next cs else (significand, cs.length + 1)

/-- A power of ten that double precision can hold. -/
def powerOfTen (n : Nat) : Float :=
  Float.ofScientific 1 false n

/-- A number times a power of ten, in double precision. There is none if it is too large. -/
def scaled? (x : Float) (exponent : Int) : Option Float :=
  if exponent.natAbs ≤ 308 then
    if 0 ≤ exponent then
      let y := x * powerOfTen exponent.toNat
      if y.isInf then none else some y
    else
      some (x / powerOfTen exponent.natAbs)
  else if x == 0 then
    some x
  else if 0 ≤ exponent then
    none
  else
    scaled? (x / powerOfTen 308) (exponent + 308)
termination_by exponent.natAbs

/-- The double-precision number with the given significand and power of ten. -/
def floatOf (positive : Bool) (significand : Nat) (exponent : Int) (rest : List Char) :
    Except Stop (Parsed Number) :=
  match scaled? (Float.ofNat significand) exponent with
  | some x => .ok (.float (if positive then x else -x), rest)
  | none => .error (.here .numberOutOfRange rest)

def maxExponent : Nat := 2147483647

/-- The value of the digits of an exponent, and what follows them. No value means that the
exponent is too large; the rest then starts behind the digit that made it so. -/
def exponentDigits (value : Nat) : List Char → Option Nat × List Char
  | [] => (some value, [])
  | c :: cs =>
    if c.isDigit then
      let next := value * 10 + digitValue c
      if next ≤ maxExponent then exponentDigits next cs else (none, cs)
    else
      (some value, c :: cs)

/-- The sign of an exponent, positive if there is none, and what follows it. -/
def exponentSign : List Char → Bool × List Char
  | '+' :: cs => (true, cs)
  | '-' :: cs => (false, cs)
  | cs => (true, cs)

/-- The rest of a number behind its exponent mark. -/
def withExponent (positive : Bool) (significand : Nat) (start : Int) (cs : List Char) :
    Except Stop (Parsed Number) :=
  let (up, cs) := exponentSign cs
  match cs with
  | [] => .error (.here .endOfValue [])
  | c :: _ =>
    if c.isDigit then
      match exponentDigits 0 cs with
      | (some value, rest) =>
        floatOf positive significand (if up then start + value else start - value) rest
      | (none, rest) =>
        if significand ≠ 0 ∧ up then
          .error (.here .numberOutOfRange rest)
        else
          .ok (.float (if positive then 0.0 else -0.0), rest.dropWhile Char.isDigit)
    else
      .error (.atNext .invalidNumber cs)

def exponentMark? : List Char → Option (List Char)
  | 'e' :: cs => some cs
  | 'E' :: cs => some cs
  | _ => none

/-- The rest of a number behind its decimal point. -/
def withFraction (positive : Bool) (significand : Nat) (start : Int) (cs : List Char) :
    Except Stop (Parsed Number) :=
  let digits := cs.takeWhile Char.isDigit
  let rest := cs.dropWhile Char.isDigit
  if digits.isEmpty then
    match cs with
    | [] => .error (.here .endOfValue [])
    | _ => .error (.atNext .invalidNumber cs)
  else
    let (significand, dropped) := appendDigits significand digits
    let exponent := start - (digits.length - dropped : Nat)
    match exponentMark? rest with
    | some rest => withExponent positive significand exponent rest
    | none => floatOf positive significand exponent rest

/-- A number without point and exponent. Negative zero is no integer, nor is what does not fit
into 64 bits with a sign. -/
def whole (positive : Bool) (significand : Nat) (rest : List Char) : Except Stop (Parsed Number) :=
  if positive then .ok (.natural significand, rest)
  else if significand = 0 ∨ 0x8000000000000000 < significand then
    .ok (.float (-(Float.ofNat significand)), rest)
  else .ok (.negative significand, rest)

/-- The rest of a number behind the digits of its integer part, of which `dropped` did not
fit. -/
def behindInteger (positive : Bool) (significand dropped : Nat) (cs : List Char) :
    Except Stop (Parsed Number) :=
  match cs with
  | '.' :: rest => withFraction positive significand dropped rest
  | _ =>
    match exponentMark? cs with
    | some rest => withExponent positive significand dropped rest
    | none =>
      if dropped = 0 then whole positive significand cs
      else floatOf positive significand dropped cs

/-- A number behind its sign. -/
def number (positive : Bool) : List Char → Except Stop (Parsed Number)
  | [] => .error (.here .endOfValue [])
  | c :: cs =>
    if c = '0' then
      match cs with
      | [] => behindInteger positive 0 0 []
      | d :: _ =>
        if d.isDigit then .error (.atNext .invalidNumber cs) else behindInteger positive 0 0 cs
    else if c.isDigit then
      let (significand, dropped) := appendDigits 0 (c :: cs.takeWhile Char.isDigit)
      behindInteger positive significand dropped (cs.dropWhile Char.isDigit)
    else
      .error (.atNext .invalidNumber (c :: cs))

def skipExponent (cs : List Char) : Except Stop (List Char) :=
  match (exponentSign cs).2 with
  | [] => .error (.here .invalidNumber [])
  | c :: cs =>
    if c.isDigit then .ok (cs.dropWhile Char.isDigit)
    else .error (.atNext .invalidNumber (c :: cs))

def skipBehindInteger (cs : List Char) : Except Stop (List Char) :=
  match cs with
  | '.' :: rest =>
    if (rest.takeWhile Char.isDigit).isEmpty then
      .error (.atNext .invalidNumber rest)
    else
      match exponentMark? (rest.dropWhile Char.isDigit) with
      | some rest => skipExponent rest
      | none => .ok (rest.dropWhile Char.isDigit)
  | _ =>
    match exponentMark? cs with
    | some rest => skipExponent rest
    | none => .ok cs

/-- Skips a number behind its sign, without a look at its size. -/
def skipNumber : List Char → Except Stop (List Char)
  | [] => .error (.here .invalidNumber [])
  | c :: cs =>
    if c = '0' then
      match cs with
      | [] => .ok []
      | d :: _ => if d.isDigit then .error (.atNext .invalidNumber cs) else skipBehindInteger cs
    else if c.isDigit then skipBehindInteger (cs.dropWhile Char.isDigit)
    else .error (.atNext .invalidNumber (c :: cs))

end HeaderNotes.Settings.Reader

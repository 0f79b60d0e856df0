/-!
The shortest decimal that reads back as a given double-precision number. A finite number is an
integer times a power of two; the decimals that round to it fill an interval, and the result is
the coarsest decimal grid with a point in it.
-/

namespace HeaderNotes.Decimal

/-- A decimal `0.d₁d₂d₃…` times a power of ten. -/
structure Scientific where
  digits : List Char
  exponent : Int
deriving DecidableEq, Repr

/-- A positive number and the ends of its rounding interval, as fractions over one denominator.
The ends belong to the interval if the integer part of the representation is even. -/
structure Interval where
  low : Nat
  value : Nat
  high : Nat
  denominator : Nat
  closed : Bool

/-- The number of values that the 52 fraction bits can take. -/
def fractionSize : Nat := 0x10000000000000

def intervalOf (biased fraction : Nat) : Interval :=
  let mantissa := if biased = 0 then fraction else fraction + fractionSize
  let power : Int := (if biased = 0 then 1 else biased) - 1075
  let below := if fraction = 0 ∧ 1 < biased then 1 else 2
  let scale := if power < 2 then 1 else Nat.pow 2 (power - 2).toNat
  { low := (4 * mantissa - below) * scale
    value := 4 * mantissa * scale
    high := (4 * mantissa + 2) * scale
    denominator := if power < 2 then Nat.pow 2 (2 - power).toNat else 1
    closed := mantissa % 2 = 0 }

def Interval.holds (i : Interval) (numerator denominator : Nat) : Bool :=
  let point := numerator * i.denominator
  if i.closed then
    i.low * denominator ≤ point && point ≤ i.high * denominator
  else
    i.low * denominator < point && point < i.high * denominator

/-- How many decimal zeros follow the point of a fraction below one, up to a limit. -/
def leadingZeros (numerator denominator : Nat) : Nat → Nat
  | 0 => 0
  | limit + 1 =>
    if denominator ≤ numerator * 10 then 0
    else 1 + leadingZeros (numerator * 10) denominator limit

/-- The power of ten just above a number: the exponent with which its first digit follows the
point. -/
def exponentOf (i : Interval) : Int :=
  if i.denominator ≤ i.value then
    (Nat.toDigits 10 (i.value / i.denominator)).length
  else
    -(leadingZeros i.value i.denominator 400)

/-- The grid point of an interval with the given number of digits that is nearest to its value,
if there is one. Of two that are equally near, the one with the even last digit is taken. -/
def onGrid? (i : Interval) (exponent : Int) (places : Nat) : Option Scientific :=
  let shift := exponent - places
  let up := Nat.pow 10 shift.toNat
  let down := Nat.pow 10 (-shift).toNat
  let below := i.value * down / (i.denominator * up)
  let found (n : Nat) : Option Scientific :=
    if i.holds (n * up) down then
      let digits := Nat.toDigits 10 n
      some ⟨(digits.reverse.dropWhile (· == '0')).reverse, shift + digits.length⟩
    else
      none
  let twice := 2 * (i.value * down % (i.denominator * up))
  if twice < i.denominator * up ∨ (twice = i.denominator * up ∧ below % 2 = 0) then
    found below <|> found (below + 1)
  else
    found (below + 1) <|> found below

/-- The shortest decimal of a positive number; seventeen digits always suffice. -/
def shortest (i : Interval) : Scientific :=
  let exponent := exponentOf i
  let grids := (List.range 17).map (· + 1)
  (grids.findSome? (onGrid? i exponent)).getD ⟨['0'], 1⟩

/-- Positional notation for numbers from a hundred-thousandth up to sixteen digits before the
point, scientific notation with a signed exponent elsewhere. -/
def Scientific.text (d : Scientific) : String :=
  let places := d.digits.length
  if 0 < d.exponent ∧ d.exponent ≤ 16 then
    let whole := d.exponent.toNat
    if places ≤ whole then
      String.ofList (d.digits ++ List.replicate (whole - places) '0' ++ ['.', '0'])
    else
      String.ofList (d.digits.take whole ++ '.' :: d.digits.drop whole)
  else if -5 < d.exponent ∧ d.exponent ≤ 0 then
    String.ofList (['0', '.'] ++ List.replicate (-d.exponent).toNat '0' ++ d.digits)
  else
    let power := d.exponent - 1
    let mantissa :=
      match d.digits with
      | first :: second :: rest => first :: '.' :: second :: rest
      | digits => digits
    String.ofList (mantissa ++ ['e', if power < 0 then '-' else '+']
      ++ Nat.toDigits 10 power.natAbs)

/-- The text of a finite double-precision number: a sign if it is negative, zero included, and
the shortest decimal. -/
def floatText (x : Float) : String :=
  let bits := x.toBits.toNat
  let biased := bits / fractionSize % 0x800
  let fraction := bits % fractionSize
  let sign := if 0x8000000000000000 ≤ bits then "-" else ""
  if biased = 0 ∧ fraction = 0 then sign ++ "0.0"
  else sign ++ (shortest (intervalOf biased fraction)).text

end HeaderNotes.Decimal

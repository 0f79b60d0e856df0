/-!
Patterns for names: `?` stands for one character, `*` for any text, `**` for whole components of
a path, `[…]` for a character of a class and `[!…]` for one outside of it.
-/

namespace HeaderNotes

inductive Pattern.Part
  | char (c : Char)
  | anyChar
  | anyText
  | components
  | oneOf (ranges : List (Char × Char))
  | noneOf (ranges : List (Char × Char))
deriving DecidableEq, Repr

structure Pattern where
  parts : List Pattern.Part
deriving DecidableEq, Repr

namespace Pattern

inductive Fault
  | wildcards
  | recursiveWildcards
  | range
deriving DecidableEq, Repr

def Fault.message : Fault → String
  | wildcards => "wildcards are either regular `*` or recursive `**`"
  | recursiveWildcards => "recursive wildcards must form a single path component"
  | range => "invalid range pattern"

/-- The ranges that the text of a class lists. A single character is a range of its own. -/
def ranges : List Char → List (Char × Char)
  | low :: '-' :: high :: rest => (low, high) :: ranges rest
  | c :: rest => (c, c) :: ranges rest
  | [] => []

/-- The first character of a class, even a closing bracket, the others up to the closing
bracket, and what follows it. -/
def classBody? : List Char → Option (List Char × List Char)
  | [] => none
  | first :: cs =>
    match cs.dropWhile (· != ']') with
    | _ :: rest => some (first :: cs.takeWhile (· != ']'), rest)
    | [] => none

/-- A class, behind its opening bracket, and what follows it. -/
def class? : List Char → Option (Part × List Char)
  | '!' :: cs => (classBody? cs).map fun (body, rest) => (.noneOf (ranges body), rest)
  | cs => (classBody? cs).map fun (body, rest) => (.oneOf (ranges body), rest)

/-- Reads the parts of a pattern that follow the character `previous`, in at most the given
number of rounds. -/
def partsWithin : Nat → Option Char → List Char → Except Fault (List Part)
  | 0, _, _ => .ok []
  | _ + 1, _, [] => .ok []
  | _ + 1, _, '*' :: '*' :: '*' :: _ => .error .wildcards
  | rounds + 1, previous, '*' :: '*' :: cs =>
    if previous = none ∨ previous = some '/' then
      match cs with
      | [] => .ok [.components]
      | '/' :: cs => do .ok (.components :: (← partsWithin rounds (some '/') cs))
      | _ => .error .recursiveWildcards
    else
      .error .recursiveWildcards
  | rounds + 1, _, '*' :: cs => do .ok (.anyText :: (← partsWithin rounds (some '*') cs))
  | rounds + 1, _, '?' :: cs => do .ok (.anyChar :: (← partsWithin rounds (some '?') cs))
  | rounds + 1, _, '[' :: cs =>
    match class? cs with
    | some (part, cs) => do .ok (part :: (← partsWithin rounds (some ']') cs))
    | none => .error .range
  | rounds + 1, _, c :: cs => do .ok (.char c :: (← partsWithin rounds (some c) cs))

/-- Compiles the text of a pattern. Every round takes a character. -/
def ofText (text : String) : Except Fault Pattern := do
  .ok ⟨← partsWithin text.length none text.toList⟩

def inRanges (ranges : List (Char × Char)) (c : Char) : Bool :=
  ranges.any fun (low, high) => low ≤ c && c ≤ high

def Part.acceptsChar : Part → Char → Bool
  | char d, c => d == c
  | anyChar, _ => true
  | oneOf ranges, c => inRanges ranges c
  | noneOf ranges, c => !inRanges ranges c
  | anyText, _ => false
  | components, _ => false

/-- Marks the ends of a text that start with a character of the given kind and go on with a marked
end. A list of marks has one for each end of a text, from the whole text to the empty end. -/
def markBehind (test : Char → Bool) (cs : List Char) (marks : List Bool) : List Bool :=
  List.zipWith (fun c mark => test c && mark) cs marks.tail ++ [false]

/-- Marks the ends of a text that have a marked end. -/
def markAbove (marks : List Bool) : List Bool :=
  marks.foldr (fun mark later => (mark || later.headD false) :: later) []

/-- Marks the ends of a text that a part describes down to a marked end. -/
def Part.marks (part : Part) (cs : List Char) (marks : List Bool) : List Bool :=
  match part with
  | anyText => markAbove marks
  | components => List.zipWith (· || ·) marks (markAbove (markBehind (· == '/') cs marks))
  | part => markBehind part.acceptsChar cs marks

/-- Marks the ends of a text that some parts describe. Components at the end of a pattern stand
for any text. -/
def marks : List Part → List Char → List Bool
  | [], cs => cs.map (fun _ => false) ++ [true]
  | [.components], cs => cs.map (fun _ => true) ++ [true]
  | part :: parts, cs => part.marks cs (marks parts cs)

/-- Whether a pattern describes a whole name. -/
def accepts (p : Pattern) (name : String) : Bool :=
  (marks p.parts name.toList).headD false

end Pattern
end HeaderNotes

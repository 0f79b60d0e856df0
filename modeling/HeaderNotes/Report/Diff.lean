import HeaderNotes.Report.Alignment

/-!
Unified diffs of annotated files. Nothing is ever taken out, so a diff is the annotated text with
the inserted parts marked. The unit of a diff is a line in a wider sense: it ends in a line feed,
a carriage return or both.
-/

namespace HeaderNotes.Diff

inductive Change
  | keep (unit : String)
  | insert (unit : String)
deriving DecidableEq, Repr

/-- Puts a character in front of some units. A line end makes a unit of its own, but a carriage
return joins a line feed behind it. -/
def consUnit (c : Char) (units : List (List Char)) : List (List Char) :=
  match units with
  | [] => [[c]]
  | unit :: rest =>
    if c = '\n' ∨ (c = '\r' ∧ unit.head? ≠ some '\n') then [c] :: unit :: rest
    else (c :: unit) :: rest

def cutUnits (cs : List Char) : List (List Char) :=
  cs.foldr consUnit []

def units (text : String) : List String :=
  (cutUnits text.toList).map String.ofList

def ofStep : Alignment.Step → List Change
  | .keep unit => [.keep unit]
  | .insert run => run.map .insert

def changes (before after : String) : List Change :=
  (Alignment.steps (units before) (units after)).flatMap ofStep

/-- How many unchanged units are shown on either side of an insertion. -/
def context : Nat := 3

/-- Marks insertions and the units that follow one closely; `due` more units are shown. -/
def shownAfter (due : Nat) : List Change → List Bool
  | [] => []
  | .insert _ :: rest => true :: shownAfter context rest
  | .keep _ :: rest => (due > 0) :: shownAfter (due - 1) rest

def shown (cs : List Change) : List Bool :=
  List.zipWith (· || ·) (shownAfter 0 cs) (shownAfter 0 cs.reverse).reverse

/-- Changes that are shown together, and how many units come before them on each side. -/
structure Hunk where
  oldStart : Nat
  newStart : Nat
  changes : List Change
deriving DecidableEq, Repr

def Change.isKept : Change → Bool
  | keep _ => true
  | insert _ => false

/-- Collects neighbouring changes that are shown. -/
def hunksFrom (old new : Nat) : List (Change × Bool) → List Hunk
  | [] => []
  | (change, visible) :: rest =>
    let following := hunksFrom (if change.isKept then old + 1 else old) (new + 1) rest
    if visible then
      match rest, following with
      | (_, true) :: _, hunk :: hunks =>
        { oldStart := old, newStart := new, changes := change :: hunk.changes } :: hunks
      | _, _ => { oldStart := old, newStart := new, changes := [change] } :: following
    else
      following

def hunks (cs : List Change) : List Hunk :=
  hunksFrom 0 0 (cs.zip (shown cs))

/-- A range of units: its start, counted from one, and its length unless that is one. An empty
range starts one earlier. -/
def rangeText (start length : Nat) : String :=
  if length = 1 then toString (start + 1)
  else if length = 0 then toString start ++ ",0"
  else toString (start + 1) ++ "," ++ toString length

def isUnterminated (unit : String) : Bool :=
  match unit.toList.getLast? with
  | some c => c != '\n' && c != '\r'
  | none => true

def markedText (mark unit : String) : String :=
  mark ++ unit ++ if isUnterminated unit then "\n\\ No newline at end of file\n" else ""

def Change.text : Change → String
  | keep unit => markedText " " unit
  | insert unit => markedText "+" unit

def Hunk.text (h : Hunk) : String :=
  let oldLength := h.changes.countP Change.isKept
  "@@ -" ++ rangeText h.oldStart oldLength ++ " +" ++ rangeText h.newStart h.changes.length
    ++ " @@\n" ++ String.join (h.changes.map Change.text)

/-- The diff of a file; nothing if it is unchanged. -/
def text (path before after : String) : String :=
  match hunks (changes before after) with
  | [] => ""
  | found =>
    "--- " ++ path ++ "\n+++ " ++ path ++ "\n" ++ String.join (found.map Hunk.text)

end HeaderNotes.Diff

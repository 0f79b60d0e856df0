/-!
How a text is found again in a longer one that was made from it by insertions. Texts are lists of
units, such as lines. A unit may occur more than once, so there can be several ways; the one that
is taken halves the insertions again and again. Inserted runs then move to the lowest place that
leaves both texts as they are.
-/

namespace HeaderNotes.Alignment

/-- A unit of both texts, or a run of units that only the longer text has. -/
inductive Step
  | keep (unit : String)
  | insert (run : List String)
deriving DecidableEq, Repr

/-- How many units two texts share at their start. -/
def shared : List String → List String → Nat
  | a :: short, b :: long => if a = b then shared short long + 1 else 0
  | _, _ => 0

/-- How many units of the shorter text are found in the longer one when the given number of its
units is passed over, each as soon as the texts differ. The texts differ at their start. -/
def reach : Nat → List String → List String → Nat
  | 0, _, _ => 0
  | passed + 1, short, long =>
    let found := shared short long.tail
    found + reach passed (short.drop found) (long.tail.drop found)

/-- Where half of the insertions are done: how many units of each text come before. An even number
of insertions is halved from the end of the texts, an odd one from their start, with the insertion
in the middle counted to the first half. -/
def middle (short long : List String) : Nat × Nat :=
  let half := (long.length - short.length) / 2
  if (long.length - short.length) % 2 = 0 then
    let found := reach half short.reverse long.reverse
    (short.length - found, long.length - found - half)
  else
    let found := reach half short long
    (found, found + half + 1)

/-- Finds the shorter text in the longer one, with at most the given number of halvings in a
row. -/
def stepsWithin : Nat → List String → List String → List Step
  | 0, _, long => [.insert long]
  | halvings + 1, short, long =>
    let top := shared short long
    let restShort := short.drop top
    let restLong := long.drop top
    let bottom := shared restShort.reverse restLong.reverse
    let innerShort := restShort.take (restShort.length - bottom)
    let innerLong := restLong.take (restLong.length - bottom)
    let inner :=
      if innerLong.isEmpty then []
      else if innerShort.isEmpty then [.insert innerLong]
      else
        let (m, n) := middle innerShort innerLong
        stepsWithin halvings (innerShort.take m) (innerLong.take n)
          ++ stepsWithin halvings (innerShort.drop m) (innerLong.drop n)
    (short.take top).map .keep ++ inner
      ++ (restShort.drop (restShort.length - bottom)).map .keep

/-- Steps that are in place, the last first, and a run of insertions below them that may still
move down. -/
structure Settling where
  above : List Step
  run : List String
deriving DecidableEq, Repr

/-- Moves a run up over units that equal its last one, and joins it with the runs it meets. Returns
the units that it has passed as well. -/
def raise (run passed : List String) : List Step → Settling × List String
  | [] => (⟨[], run⟩, passed)
  | .insert earlier :: above => raise (earlier ++ run) passed above
  | .keep unit :: above =>
    if run.getLast? = some unit then raise (unit :: run.dropLast) (unit :: passed) above
    else (⟨.keep unit :: above, run⟩, passed)

namespace Settling

/-- Adds a unit of both texts. A run that starts with it moves below it; any other run is in
place. -/
def keep (s : Settling) (unit : String) : Settling :=
  match s.run with
  | [] => ⟨.keep unit :: s.above, []⟩
  | first :: others =>
    if first = unit then ⟨.keep unit :: s.above, others ++ [unit]⟩
    else ⟨.keep unit :: .insert (first :: others) :: s.above, []⟩

/-- Adds a run of insertions. It joins a run that has come down to it; otherwise it moves up first
to join the runs above that it can reach. -/
def insert (s : Settling) (run : List String) : Settling :=
  if s.run.isEmpty then
    let (raised, passed) := raise run [] s.above
    passed.foldl keep raised
  else
    { s with run := s.run ++ run }

def add (s : Settling) : Step → Settling
  | .keep unit => s.keep unit
  | .insert run => s.insert run

def steps (s : Settling) : List Step :=
  s.above.reverse ++ if s.run.isEmpty then [] else [.insert s.run]

end Settling

/-- Moves inserted runs to their lowest place. -/
def settle (steps : List Step) : List Step :=
  (steps.foldl Settling.add ⟨[], []⟩).steps

/-- The steps from a text to a longer one in which it is found. Halving a number of insertions
takes fewer steps than there are insertions. -/
def steps (short long : List String) : List Step :=
  settle (stepsWithin (long.length + 1) short long)

end HeaderNotes.Alignment

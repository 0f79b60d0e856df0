/-!
Sets of code points, written as increasing lists of closed ranges. The character classes of the
library are tables of this form.
-/

namespace HeaderNotes.Text

abbrev Ranges := List (Nat × Nat)

/-- Whether a code point lies in one of the ranges. The search stops at the first range that
starts above the code point. -/
def Ranges.contains : Ranges → Nat → Bool
  | [], _ => false
  | (low, high) :: rest, n => if n < low then false else n ≤ high || contains rest n

end HeaderNotes.Text

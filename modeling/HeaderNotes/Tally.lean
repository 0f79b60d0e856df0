import HeaderNotes.Header.Kind

/-!
Counts per kind of header. A kind that was never counted is absent, which differs from a count
of zero.
-/

namespace HeaderNotes

structure Tally where
  count? : Kind → Option Nat

namespace Tally

def empty : Tally := ⟨fun _ => none⟩

instance : Inhabited Tally := ⟨empty⟩

@[ext] theorem ext {s t : Tally} (h : ∀ k, s.count? k = t.count? k) : s = t := by
  cases s; cases t; congr; funext k; exact h k

/-- The count of a kind, zero if it is absent. -/
def count (t : Tally) (k : Kind) : Nat :=
  (t.count? k).getD 0

/-- Adds `n` occurrences of a kind, which is present from then on. -/
def add (t : Tally) (k : Kind) (n : Nat) : Tally :=
  ⟨fun j => if j = k then some (t.count k + n) else t.count? j⟩

/-- The kinds that occur with their counts, in the order of the kinds. -/
def toList (t : Tally) : List (Kind × Nat) :=
  Kind.all.filterMap fun k => (t.count? k).map fun n => (k, n)

def isEmpty (t : Tally) : Bool :=
  t.toList.isEmpty

def merge (s t : Tally) : Tally :=
  t.toList.foldl (fun acc entry => acc.add entry.1 entry.2) s

def ofKinds (ks : List Kind) : Tally :=
  ks.foldl (fun acc k => acc.add k 1) empty

def total (t : Tally) : Nat :=
  t.toList.foldr (fun entry n => entry.2 + n) 0

end Tally
end HeaderNotes

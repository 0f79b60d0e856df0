import HeaderNotes.Tally
import Mathlib.Algebra.GroupWithZero.Nat

/-!
Counting kinds. A tally of a list holds, for every kind that occurs in it, how often it occurs, and
nothing for the others; its total is the length of the list.
-/

namespace HeaderNotes.Tally

@[simp] theorem count?_empty (k : Kind) : empty.count? k = none := rfl

@[simp] theorem count_empty (k : Kind) : empty.count k = 0 := rfl

theorem count?_add (t : Tally) (j k : Kind) (n : Nat) :
    (t.add k n).count? j = if j = k then some (t.count k + n) else t.count? j := rfl

theorem count_add (t : Tally) (j k : Kind) (n : Nat) :
    (t.add k n).count j = if j = k then t.count k + n else t.count j := by
  simp only [count, count?_add]
  split <;> rfl

theorem total_eq_sum (t : Tally) : t.total = (Kind.all.map t.count).sum := by
  suffices h : ∀ ks : List Kind,
      ((ks.filterMap fun k => (t.count? k).map fun n => (k, n)).foldr
        (fun entry n => entry.2 + n) 0) = (ks.map t.count).sum from h Kind.all
  intro ks
  induction ks with
  | nil => rfl
  | cons k ks ih =>
      cases hk : t.count? k <;> simp [hk, ih, count]

@[simp] theorem total_empty : empty.total = 0 := rfl

theorem total_add (t : Tally) (k : Kind) (n : Nat) : (t.add k n).total = t.total + n := by
  rw [total_eq_sum, total_eq_sum]
  cases k <;> simp [Kind.all, count_add] <;> omega

/-- Counting on from a tally adds the occurrences in the list to what it holds. -/
theorem count?_foldl_add (ks : List Kind) (t : Tally) (k : Kind) :
    (ks.foldl (fun acc j => acc.add j 1) t).count? k =
      if ks.count k = 0 then t.count? k else some (t.count k + ks.count k) := by
  induction ks generalizing t with
  | nil => simp
  | cons j ks ih =>
      simp only [List.foldl_cons, ih, count?_add, count_add, List.count_cons]
      by_cases hj : j = k
      · subst hj
        by_cases hc : ks.count j = 0 <;> simp [hc, Nat.add_assoc, Nat.add_comm 1]
      · simp [hj, Ne.symm hj]

theorem count?_ofKinds (ks : List Kind) (k : Kind) :
    (ofKinds ks).count? k = if ks.count k = 0 then none else some (ks.count k) := by
  simp [ofKinds, count?_foldl_add]

/-- The counts of a tally are added kind by kind. -/
theorem count?_foldl_entries {ks : List Kind} (nodup : ks.Nodup) (s t : Tally) (k : Kind) :
    ((ks.filterMap fun j => (t.count? j).map fun n => (j, n)).foldl
      (fun acc entry => acc.add entry.1 entry.2) s).count? k =
      if k ∈ ks then (t.count? k).elim (s.count? k) fun n => some (s.count k + n)
      else s.count? k := by
  induction ks generalizing s with
  | nil => simp
  | cons j ks ih =>
      obtain ⟨hj, hks⟩ := List.nodup_cons.mp nodup
      cases hc : t.count? j with
      | none =>
          rw [List.filterMap_cons_none (by simp [hc]), ih hks]
          by_cases hk : k = j
          · subst hk
            simp [hj, hc]
          · simp [hk]
      | some n =>
          rw [List.filterMap_cons_some (by rw [hc, Option.map_some]), List.foldl_cons, ih hks]
          by_cases hk : k = j
          · subst hk
            simp [hj, hc, count?_add]
          · simp [hk, count?_add, count_add]

/-- A merged tally holds the kinds of both, each with the sum of its counts. -/
theorem count?_merge (s t : Tally) (k : Kind) :
    (s.merge t).count? k =
      (t.count? k).elim (s.count? k) fun n => some (s.count k + n) := by
  rw [merge, toList, count?_foldl_entries (by decide), if_pos (Kind.mem_all k)]

theorem count_merge (s t : Tally) (k : Kind) :
    (s.merge t).count k = s.count k + t.count k := by
  rw [count, count?_merge, count, count]
  cases t.count? k <;> rfl

theorem total_merge (s t : Tally) : (s.merge t).total = s.total + t.total := by
  simp only [total_eq_sum, count_merge, Kind.all, List.map_cons, List.map_nil, List.sum_cons,
    List.sum_nil]
  omega

theorem merge_ofKinds (ks js : List Kind) :
    (ofKinds ks).merge (ofKinds js) = ofKinds (ks ++ js) := by
  ext1 k
  rw [count?_merge, count, count?_ofKinds, count?_ofKinds, count?_ofKinds, List.count_append]
  by_cases hk : ks.count k = 0 <;> by_cases hj : js.count k = 0 <;> simp [hk, hj]

theorem total_ofKinds (ks : List Kind) : (ofKinds ks).total = ks.length := by
  suffices h : ∀ t : Tally,
      (ks.foldl (fun acc k => acc.add k 1) t).total = t.total + ks.length by
    simpa [ofKinds] using h empty
  induction ks with
  | nil => simp
  | cons k ks ih =>
      intro t
      simp only [List.foldl_cons, ih, total_add, List.length_cons]
      omega

end HeaderNotes.Tally

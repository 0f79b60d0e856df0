import HeaderNotes.Batch.Outcome
import HeaderNotes.Proofs.Tally

/-!
The totals of a run as functions of its outcomes. Counting goes through the outcomes from left to
right; what comes out is a sum over them, or the list of what they have to report, in order.
-/

namespace HeaderNotes

namespace Outcome

def readFailure? (o : Outcome) : Option FailedFile :=
  match o.status with
  | .readFailed error => some ⟨o.file, error⟩
  | _ => none

def writeFailure? (o : Outcome) : Option FailedFile :=
  match o.status with
  | .writeFailed _ error => some ⟨o.file, error⟩
  | _ => none

theorem writeFailure?_eq_none_iff {o : Outcome} :
    o.writeFailure? = none ↔ ∀ n error, o.status ≠ .writeFailed n error := by
  unfold writeFailure?
  cases o.status <;> simp

/-- Whether notes are missing from the file, or were until the run. -/
def isChanged (o : Outcome) : Bool :=
  0 < o.added

end Outcome

namespace Summary

/-- The totals over some outcomes, each as a function of the whole list. -/
structure Accounts (outcomes : List Outcome) (s : Summary) : Prop where
  filesProcessed : s.filesProcessed = outcomes.length
  filesChanged : s.filesChanged = outcomes.countP Outcome.isChanged
  notesAdded : s.notesAdded = (outcomes.map Outcome.added).sum
  /-- Each kind is counted with the sum of its counts over the files with notes. -/
  byKind : ∀ k, s.byKind.count k =
    ((outcomes.filter Outcome.isChanged).map fun o => o.byKind.count k).sum
  /-- A kind is present if it is for one of these files. -/
  present : ∀ k, (s.byKind.count? k).isSome ↔
    ∃ o ∈ outcomes.filter Outcome.isChanged, (o.byKind.count? k).isSome
  readFailures : s.readFailures = outcomes.filterMap Outcome.readFailure?
  writeFailures : s.writeFailures = outcomes.filterMap Outcome.writeFailure?

theorem accounts_nil (applied : Bool) : Accounts [] { applied } :=
  ⟨rfl, rfl, rfl, fun _ => rfl, fun _ => by simp, rfl, rfl⟩

/-- One more file is counted into each of the totals. -/
theorem Accounts.count {outcomes : List Outcome} {s : Summary} (h : Accounts outcomes s)
    (o : Outcome) : Accounts (outcomes ++ [o]) (s.count o) := by
  have hchanged : o.isChanged = decide (0 < o.added) := rfl
  refine ⟨?_, ?_, ?_, fun k => ?_, fun k => ?_, ?_, ?_⟩
  · rw [Summary.count, List.length_append, h.filesProcessed, List.length_singleton]
  · rw [Summary.count, List.countP_append, h.filesChanged, List.countP_singleton, hchanged]
    by_cases hpos : 0 < o.added <;> simp [hpos]
  · rw [Summary.count, List.map_append, List.sum_append, h.notesAdded, List.map_singleton,
      List.sum_singleton]
  · rw [Summary.count, List.filter_append, List.map_append, List.sum_append, ← h.byKind,
      List.filter_cons, hchanged]
    by_cases hpos : 0 < o.added <;> simp [hpos, Tally.count_merge]
  · rw [Summary.count, List.filter_append, List.filter_cons, hchanged]
    by_cases hpos : 0 < o.added
    · cases hk : o.byKind.count? k <;> simp [hpos, Tally.count?_merge, h.present, hk, or_and_right,
        exists_or]
    · simp [hpos, h.present]
  · rw [Summary.count, List.filterMap_append, h.readFailures, List.filterMap_cons,
      Outcome.readFailure?]
    cases o.status <;> simp
  · rw [Summary.count, List.filterMap_append, h.writeFailures, List.filterMap_cons,
      Outcome.writeFailure?]
    cases o.status <;> simp

theorem Accounts.foldl {done : List Outcome} {s : Summary} (h : Accounts done s)
    (outcomes : List Outcome) : Accounts (done ++ outcomes) (outcomes.foldl Summary.count s) := by
  induction outcomes generalizing done s with
  | nil => rwa [List.append_nil]
  | cons o outcomes ih => simpa using ih (h.count o)

theorem accounts_ofOutcomes (outcomes : List Outcome) (applied : Bool) :
    Accounts outcomes (ofOutcomes outcomes applied) :=
  (accounts_nil applied).foldl outcomes

theorem applied_ofOutcomes (outcomes : List Outcome) (applied : Bool) :
    (ofOutcomes outcomes applied).applied = applied := by
  suffices h : ∀ s : Summary, (outcomes.foldl count s).applied = s.applied from h _
  induction outcomes with
  | nil => exact fun s => rfl
  | cons o outcomes ih => exact fun s => ih (s.count o)

theorem notesAdded_ofOutcomes (outcomes : List Outcome) (applied : Bool) :
    (ofOutcomes outcomes applied).notesAdded = (outcomes.map Outcome.added).sum :=
  (accounts_ofOutcomes outcomes applied).notesAdded

theorem writeFailures_ofOutcomes (outcomes : List Outcome) (applied : Bool) :
    (ofOutcomes outcomes applied).writeFailures =
      outcomes.filterMap Outcome.writeFailure? :=
  (accounts_ofOutcomes outcomes applied).writeFailures

theorem not_writeFailed {outcomes : List Outcome} {applied : Bool}
    (h : (ofOutcomes outcomes applied).writeFailures = []) {o : Outcome} (ho : o ∈ outcomes)
    (n : Nat) (error : String) : o.status ≠ .writeFailed n error := by
  rw [writeFailures_ofOutcomes, List.filterMap_eq_nil_iff] at h
  exact Outcome.writeFailure?_eq_none_iff.mp (h o ho) n error

end Summary
end HeaderNotes

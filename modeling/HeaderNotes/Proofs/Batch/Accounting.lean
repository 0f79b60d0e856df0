import HeaderNotes.Proofs.Batch.Interleaving
import HeaderNotes.Proofs.Batch.Totals

/-!
A summary accounts for every outcome. Its totals are sums over the outcomes, and its lists name the
files that failed, in order. What a run says about a file is in itself consistent: notes are counted
per kind just as often as in all, and nothing is reported for a file that has none. This holds
for every plan that is carried out, hence for every order of the work and every way of writing; so
the kinds of a run add up to its number of notes.
-/

namespace HeaderNotes

/-- The parts of an outcome tell the same. -/
structure Outcome.Consistent (o : Outcome) : Prop where
  total : o.byKind.total = o.added
  changed : ∀ n, (o.status = .annotated n ∨ o.status = .pending n ∨
    ∃ error, o.status = .writeFailed n error) → 0 < o.added
  settled : (o.status = .unchanged ∨ ∃ error, o.status = .readFailed error) →
    o.byKind = .empty ∧ o.preview = none

/-- A plan inserts at least one note, or none at all. -/
def Plan.Sound (plan : Plan) : Prop :=
  ∀ a, plan = .insert a → 0 < a.added

/-- What has come of the work on a file so far is sound. -/
def Progress.Sound : Progress → Prop
  | .waiting => True
  | .planned plan => plan.Sound
  | .finished outcome => outcome.Consistent

namespace Summary

theorem total_byKind_count {s : Summary} {o : Outcome} (hs : s.byKind.total = s.notesAdded)
    (ho : o.byKind.total = o.added) : (s.count o).byKind.total = (s.count o).notesAdded := by
  simp only [count]
  split
  · rw [Tally.total_merge, hs, ho]
  · rename_i none
    rw [hs, Nat.eq_zero_of_not_pos none, Nat.add_zero]

theorem total_byKind_ofOutcomes {outcomes : List Outcome}
    (h : ∀ o ∈ outcomes, o.byKind.total = o.added) (applied : Bool) :
    (ofOutcomes outcomes applied).byKind.total = (ofOutcomes outcomes applied).notesAdded := by
  suffices fold : ∀ s : Summary, s.byKind.total = s.notesAdded →
      (outcomes.foldl count s).byKind.total = (outcomes.foldl count s).notesAdded from fold _ rfl
  induction outcomes with
  | nil => exact fun s hs => hs
  | cons o outcomes ih =>
      obtain ⟨ho, hothers⟩ := List.forall_mem_cons.mp h
      exact fun s hs => ih hothers _ (total_byKind_count hs ho)

theorem Accounts.exitStatus_eq_one_iff {outcomes : List Outcome} {s : Summary}
    (h : Accounts outcomes s) (check : Bool) :
    s.exitStatus check = 1 ↔
      (∃ o ∈ outcomes, ∃ n error, o.status = .writeFailed n error) ∨
        check = true ∧ ∃ o ∈ outcomes, 0 < o.added := by
  have unwritten : s.anyUnwritten ↔ ∃ o ∈ outcomes, ∃ n error, o.status = .writeFailed n error := by
    have written : s.writeFailures = [] ↔
        ∀ o ∈ outcomes, ∀ n error, o.status ≠ .writeFailed n error := by
      simp only [h.writeFailures, List.filterMap_eq_nil_iff, Outcome.writeFailure?_eq_none_iff]
    rw [anyUnwritten, Bool.not_eq_true', List.isEmpty_eq_false_iff, Ne, written]
    push Not
    rfl
  have missing : 0 < s.notesAdded ↔ ∃ o ∈ outcomes, 0 < o.added := by
    rw [h.notesAdded, List.sum_pos_iff_exists_pos_nat]
    simp only [List.mem_map, exists_exists_and_eq_and]
  rw [exitStatus, ← unwritten, ← missing]
  cases s.anyUnwritten <;> cases check <;> simp [Nat.pos_iff_ne_zero]

end Summary

namespace Batch

section Outcomes

variable {b : Batch} {fs : FileSystem} {file : Location}

theorem plan_sound (fs : FileSystem) (t : Template) (file : Location) : (fs.plan t file).Sound := by
  intro a h
  obtain ⟨_, _, _, some⟩ := plan_eq_insert h
  exact some

theorem consistent_changed {a : Source.Annotated} (some : 0 < a.added) {status : Status}
    (counted : status.added = a.added) : (b.changed file a status).Consistent := by
  have hadded : (b.changed file a status).added = a.added := counted
  refine ⟨?_, fun _ _ => hadded ▸ some, ?_⟩
  · rw [hadded]
    exact Tally.total_ofKinds a.kinds
  · have none : (b.changed file a status).status = status := rfl
    rw [none]
    rintro (rfl | ⟨error, rfl⟩)
    · exact absurd counted (Nat.ne_of_lt some)
    · exact absurd counted (Nat.ne_of_lt some)

/-- Whatever plan is carried out, and whatever comes of writing, the outcome is consistent. -/
theorem commit_consistent {plan : Plan} (sound : plan.Sound) (fs : FileSystem) :
    (b.commit file plan fs).1.Consistent := by
  cases plan with
  | skip error => exact ⟨rfl, by simp [commit], fun _ => ⟨rfl, rfl⟩⟩
  | leave => exact ⟨rfl, by simp [commit], fun _ => ⟨rfl, rfl⟩⟩
  | insert a =>
      have some := sound a rfl
      cases mode : b.mode with
      | dryRun =>
          rw [commit_dryRun mode]
          exact consistent_changed some rfl
      | apply =>
          cases hw : b.writer fs file a.lines with
          | ok fs' =>
              rw [commit_written mode hw]
              exact consistent_changed some rfl
          | error cause =>
              rw [commit_refused mode hw]
              exact consistent_changed some rfl

theorem annotateFiles_consistent (b : Batch) (fs : FileSystem) (files : List Location) :
    ∀ o ∈ (b.annotateFiles fs files).1, o.Consistent := by
  induction files generalizing fs with
  | nil => simp [annotateFiles]
  | cons file files ih =>
      have first : (b.annotateFile fs file).1.Consistent := commit_consistent (plan_sound _ _ _) fs
      exact List.forall_mem_cons.mpr ⟨first, ih _⟩

/-- A step for a file keeps what has come of the work on it sound. -/
theorem advance_sound {job : Job} (h : job.progress.Sound) (fs : FileSystem) :
    (b.advance fs job).1.progress.Sound := by
  cases hp : job.progress with
  | waiting =>
      simp only [advance, hp]
      exact plan_sound _ _ _
  | planned plan =>
      rw [hp] at h
      simp only [advance, hp]
      exact commit_consistent h fs
  | finished outcome =>
      simp only [advance, hp]
      rwa [hp] at h

theorem turn_sound {w : Work} (h : ∀ job ∈ w.jobs, job.progress.Sound) (i : Nat) :
    ∀ job ∈ (b.turn w i).jobs, job.progress.Sound := by
  cases hi : w.jobs[i]? with
  | none => simpa only [Batch.turn, hi] using h
  | some job =>
      rw [turn_of_getElem? hi]
      intro other hother
      rcases List.mem_or_eq_of_mem_set hother with hmem | rfl
      · exact h other hmem
      · exact advance_sound (h job (List.mem_of_getElem? hi)) _

theorem turns_sound {w : Work} (h : ∀ job ∈ w.jobs, job.progress.Sound) (schedule : List Nat) :
    ∀ job ∈ (b.turns w schedule).jobs, job.progress.Sound := by
  induction schedule generalizing w with
  | nil => exact h
  | cons i schedule ih => exact ih (turn_sound h i)

/-- However the files are worked on, every outcome is consistent. -/
theorem MayEnd.consistent {files : List Location} {workers : Option UInt64}
    {outcomes : List Outcome} {fs' : FileSystem} (h : b.MayEnd fs files workers outcomes fs') :
    ∀ o ∈ outcomes, o.Consistent := by
  cases h with
  | inOrder => exact annotateFiles_consistent b fs files
  | @pool _ schedule _ _ =>
      have start : ∀ job ∈ (Work.start fs files).jobs, job.progress.Sound := by
        simp [Work.start, Job.waiting, Progress.Sound]
      intro o ho
      obtain ⟨job, hjob, houtcome⟩ := List.mem_filterMap.mp ho
      have sound := turns_sound (b := b) start schedule job hjob
      cases hp : job.progress with
      | waiting | planned => simp [hp, Progress.outcome?] at houtcome
      | finished outcome =>
          rw [hp] at sound houtcome
          obtain rfl := Option.some.inj houtcome
          exact sound

end Outcomes

end Batch

/-- The totals of any outcomes are sums over them, the failures are listed in order, and the exit
status tells of a failed write or, in a check, of a missing note. If the outcomes come from working
on files, in any order and with any way of writing, then each is consistent and the kinds add up to
the number of notes. -/
theorem Summary.accounts_for_run :
    (∀ (outcomes : List Outcome) (applied check : Bool),
      Accounts outcomes (ofOutcomes outcomes applied) ∧
      (ofOutcomes outcomes applied).applied = applied ∧
      ((ofOutcomes outcomes applied).exitStatus check = 1 ↔
        (∃ o ∈ outcomes, ∃ n error, o.status = .writeFailed n error) ∨
          check = true ∧ ∃ o ∈ outcomes, 0 < o.added)) ∧
    ∀ (b : Batch) (fs fs' : FileSystem) (files : List Location) (workers : Option UInt64)
      (outcomes : List Outcome), b.MayEnd fs files workers outcomes fs' →
      (∀ o ∈ outcomes, o.Consistent) ∧
      ∀ applied, (ofOutcomes outcomes applied).byKind.total =
        (ofOutcomes outcomes applied).notesAdded := by
  refine ⟨fun outcomes applied check => ?_, fun b fs fs' files workers outcomes ended => ?_⟩
  · have accounts := accounts_ofOutcomes outcomes applied
    exact ⟨accounts, applied_ofOutcomes outcomes applied, accounts.exitStatus_eq_one_iff check⟩
  · have consistent := ended.consistent
    exact ⟨consistent, total_byKind_ofOutcomes fun o ho => (consistent o ho).total⟩

/-- A way of working that cannot write any file. -/
def Batch.refusing : Batch where
  writer := fun _ _ _ => .error (.other "full")

/-- A file that lacks a note and is given twice, and one that cannot be read. -/
def Batch.fileSample : List Location :=
  [⟨".", ["a.js"]⟩, ⟨".", ["b.js"]⟩, ⟨".", ["a.js"]⟩]

/-- What comes of these files if none of them can be written. -/
def Batch.refusedSample : List Outcome :=
  (refusing.annotateFiles .sample fileSample).1

theorem Summary.accounts_for_run_sample :
    (ofOutcomes Batch.refusedSample true).filesProcessed = 3 ∧
      (ofOutcomes Batch.refusedSample true).byKind.total = 2 ∧
      (ofOutcomes Batch.refusedSample true).exitStatus false = 1 ∧
      ∀ o ∈ Batch.refusedSample, o.Consistent := by
  obtain ⟨totals, runs⟩ := accounts_for_run
  obtain ⟨accounts, -, status⟩ := totals Batch.refusedSample true false
  have ended : Batch.refusing.MayEnd .sample Batch.fileSample (some 1) Batch.refusedSample
      (Batch.refusing.annotateFiles .sample Batch.fileSample).2 := .inOrder
  obtain ⟨consistent, total⟩ := runs _ _ _ _ _ _ ended
  have refused : .writeFailed 1 "Failed to write ./a.js: full" ∈
      Batch.refusedSample.map Outcome.status := by
    decide +kernel
  obtain ⟨o, ho, failed⟩ := List.mem_map.mp refused
  refine ⟨accounts.filesProcessed, (total true).trans ?_, ?_, consistent⟩
  · exact accounts.notesAdded.trans (by decide +kernel)
  · exact status.mpr (.inl ⟨o, ho, _, _, failed⟩)

end HeaderNotes

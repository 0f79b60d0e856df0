import HeaderNotes.Proofs.Batch.Totals
import HeaderNotes.Proofs.Batch.Treatment
import HeaderNotes.Proofs.Source.Stability

/-!
Running twice. After a run that wrote everything it wanted to, another run finds the same files, has
nothing to add to any of them, however its notes are worded, and fails to read just those that could
not be read before.
-/

namespace HeaderNotes

namespace Batch

/-- What a second run says about a file, after a first run from `fs` that ended with outcome `o`:
nothing is missing, or it fails to read the file just as the first run did. -/
structure Settled (fs : FileSystem) (o o' : Outcome) : Prop where
  readable : ∀ lines, fs.readLines o.file = .ok lines →
    (∀ error, o.status ≠ .readFailed error) ∧ o' = { file := o.file, status := .unchanged }
  unreadable : ∀ cause, fs.readLines o.file = .error cause →
    o.status = .readFailed (Failure.unreadable o.file cause).message ∧ o' = o

theorem Settled.added_eq_zero {fs : FileSystem} {o o' : Outcome} (h : Settled fs o o') :
    o'.added = 0 := by
  cases hr : fs.readLines o.file with
  | ok lines =>
      obtain ⟨_, rfl⟩ := h.readable lines hr
      rfl
  | error cause =>
      obtain ⟨hs, rfl⟩ := h.unreadable cause hr
      simp [Outcome.added, hs, Status.added]

theorem Settled.file_eq {fs : FileSystem} {o o' : Outcome} (h : Settled fs o o') :
    o'.file = o.file := by
  cases hr : fs.readLines o.file with
  | ok lines =>
      obtain ⟨_, rfl⟩ := h.readable lines hr
      rfl
  | error cause =>
      obtain ⟨_, rfl⟩ := h.unreadable cause hr
      rfl

section Names

variable {b : Batch}

/-- Writing files back makes and removes no names. -/
theorem annotateFile_sameNames (writer : b.writer = FileSystem.writeLines) (fs : FileSystem)
    (file : Location) : fs.SameNames (b.annotateFile fs file).2 := by
  simp only [annotateFile]
  cases hp : fs.plan b.template file with
  | skip error => exact .refl fs
  | leave => exact .refl fs
  | insert a =>
      cases mode : b.mode with
      | dryRun => rw [commit_dryRun mode]; exact .refl fs
      | apply =>
          obtain ⟨place, hl, hsome⟩ := plan_insert_located hp
          have hw := FileSystem.writeLines_eq hl hsome a.lines
          rw [← writer] at hw
          rw [commit_written mode hw]
          exact ⟨rfl, Directory.skeleton_insert hsome _⟩

theorem annotateFiles_sameNames (writer : b.writer = FileSystem.writeLines) (fs : FileSystem)
    (files : List Location) : fs.SameNames (b.annotateFiles fs files).2 := by
  induction files generalizing fs with
  | nil => exact .refl fs
  | cons file files ih => exact (annotateFile_sameNames writer fs file).trans (ih _)

end Names

section Again

variable {b : Batch} {fs fs' : FileSystem} {file : Location} {o : Outcome}

/-- Nothing is missing from a file that the first run could read. -/
theorem Treated.plan_again (h : Treated b fs fs' file o) (mode : b.mode = .apply)
    (noFeed : '\n' ∉ b.template.placeholder.toList) (layout : fs.SameLayout fs')
    (written : ∀ n error, o.status ≠ .writeFailed n error) {lines : List String}
    (hr : fs.readLines file = .ok lines) (t : Template) : fs'.plan t file = .leave := by
  cases h with
  | skipped plan =>
      obtain ⟨cause, hc, _⟩ := plan_eq_skip plan
      cases hr.symm.trans hc
  | left plan kept =>
      obtain ⟨lines', hr', hadded⟩ := plan_eq_leave plan
      obtain rfl : lines = lines' := Except.ok.inj (hr.symm.trans hr')
      rw [plan_of_lines (FileSystem.readLines_congr layout kept ▸ hr), if_pos]
      rw [Source.added_annotate] at hadded ⊢
      exact hadded
  | pending _ mode' => cases mode.symm.trans mode'
  | @annotated a place plan _ located hwritten =>
      obtain ⟨lines', hr', rfl, _⟩ := plan_eq_insert plan
      obtain ⟨_, text, _, _, rfl⟩ := FileSystem.readLines_eq_ok_iff.mp hr'
      -- What was written is cut into the very lines that the first run decided on.
      have again := FileSystem.readLines_eq_ok_iff.mpr
        ⟨place, _, (FileSystem.locate_congr layout file).trans located, hwritten, rfl⟩
      rw [Source.lines_content_annotate noFeed] at again
      rw [plan_of_lines again, if_pos (Source.added_annotate_annotate _ _ _)]
  | refused => exact absurd rfl (written _ _)

theorem Treated.readFailed_iff (h : Treated b fs fs' file o) {error : String} :
    o.status = .readFailed error ↔
      ∃ cause, fs.readLines file = .error cause ∧
        error = (Failure.unreadable file cause).message := by
  refine ⟨fun hs => ?_, ?_⟩
  · cases h with
    | skipped plan _ =>
        obtain rfl := Status.readFailed.inj hs
        exact plan_eq_skip plan
    | _ => cases hs
  · rintro ⟨cause, hr, rfl⟩
    have plan := plan_of_error (t := b.template) hr
    cases h with
    | skipped plan' _ => rw [Plan.skip.inj (plan'.symm.trans plan)]
    | left plan' _ => cases plan'.symm.trans plan
    | pending plan' _ _ => cases plan'.symm.trans plan
    | annotated plan' _ _ _ => cases plan'.symm.trans plan
    | refused plan' _ _ => cases plan'.symm.trans plan

theorem Treated.plan_unreadable (h : Treated b fs fs' file o) (layout : fs.SameLayout fs')
    {cause : Cause} (hr : fs.readLines file = .error cause) (t : Template) :
    o = { file, status := .readFailed (Failure.unreadable file cause).message } ∧
      fs'.plan t file = .skip (Failure.unreadable file cause).message := by
  have status := h.readFailed_iff.mpr ⟨cause, hr, rfl⟩
  cases h with
  | skipped _ kept =>
      refine ⟨by rw [← Status.readFailed.inj status], ?_⟩
      rw [plan_congr layout kept, plan_of_error hr]
  | _ => cases status

/-- Another run has nothing to do for a file that the first one treated. -/
theorem annotateFile_again (b₂ : Batch) (h : Treated b fs fs' file o) (mode : b.mode = .apply)
    (noFeed : '\n' ∉ b.template.placeholder.toList) (layout : fs.SameLayout fs')
    (written : ∀ n error, o.status ≠ .writeFailed n error) :
    ∃ o', b₂.annotateFile fs' file = (o', fs') ∧ Settled fs o o' := by
  obtain rfl := h.file_eq
  cases hr : fs.readLines o.file with
  | ok lines =>
      have plan := h.plan_again mode noFeed layout written hr b₂.template
      refine ⟨{ file := o.file, status := .unchanged }, ?_, ?_, ?_⟩
      · simp only [annotateFile, plan, commit]
      · intro lines' _
        refine ⟨fun error hs => ?_, rfl⟩
        obtain ⟨cause, hc, _⟩ := h.readFailed_iff.mp hs
        cases hr.symm.trans hc
      · intro cause hc
        cases hr.symm.trans hc
  | error cause =>
      obtain ⟨ho, plan⟩ := h.plan_unreadable layout hr b₂.template
      refine ⟨o, ?_, ?_, ?_⟩
      · simp only [annotateFile, plan, commit, ← ho]
      · intro lines hl
        cases hr.symm.trans hl
      · intro cause' hc
        exact ⟨h.readFailed_iff.mpr ⟨cause', hc, rfl⟩, rfl⟩

theorem annotateFiles_again (b₂ : Batch) {files : List Location} {outcomes : List Outcome}
    (treated : List.Forall₂ (Treated b fs fs') files outcomes) (mode : b.mode = .apply)
    (noFeed : '\n' ∉ b.template.placeholder.toList) (layout : fs.SameLayout fs')
    (written : ∀ o ∈ outcomes, ∀ n error, o.status ≠ .writeFailed n error) :
    ∃ outcomes', b₂.annotateFiles fs' files = (outcomes', fs') ∧
      List.Forall₂ (Settled fs) outcomes outcomes' := by
  induction treated with
  | nil => exact ⟨[], rfl, .nil⟩
  | cons h _ ih =>
      obtain ⟨o', one, settled⟩ :=
        annotateFile_again b₂ h mode noFeed layout (written _ List.mem_cons_self)
      obtain ⟨outcomes', rest, others⟩ := ih fun o ho => written o (List.mem_cons_of_mem _ ho)
      refine ⟨o' :: outcomes', ?_, .cons settled others⟩
      simp only [annotateFiles, one, rest]

end Again

section Twice

variable {fs : FileSystem} {outcomes outcomes' : List Outcome}

theorem added_of_settled (h : List.Forall₂ (Settled fs) outcomes outcomes') :
    (outcomes'.map Outcome.added).sum = 0 := by
  induction h with
  | nil => rfl
  | cons settled _ ih => rw [List.map_cons, List.sum_cons, settled.added_eq_zero, ih]

theorem file_of_settled (h : List.Forall₂ (Settled fs) outcomes outcomes') :
    outcomes'.map Outcome.file = outcomes.map Outcome.file := by
  induction h with
  | nil => rfl
  | cons settled _ ih => rw [List.map_cons, List.map_cons, settled.file_eq, ih]

end Twice

/-- After a run that wrote every note it had to write, any other run over the same files finds them
again in the same order, adds nothing and changes nothing, whatever the words of its notes are. -/
theorem annotateTree_twice (b₁ b₂ : Batch) {fs : FileSystem} {root : String} {s : Selection}
    {files : List Location} (mode : b₁.mode = .apply)
    (writer : b₁.writer = FileSystem.writeLines)
    (noFeed : '\n' ∉ b₁.template.placeholder.toList)
    (found : fs.candidates root s = .ok files) :
    ∃ r₁, b₁.annotateTree fs root s = .ok r₁ ∧ r₁.outcomes.map Outcome.file = files ∧
      (r₁.summary.writeFailures = [] →
        r₁.fileSystem.candidates root s = .ok files ∧
        ∃ r₂, b₂.annotateTree r₁.fileSystem root s = .ok r₂ ∧
          r₂.outcomes.map Outcome.file = files ∧
          List.Forall₂ (Settled fs) r₁.outcomes r₂.outcomes ∧
          r₂.summary.notesAdded = 0 ∧
          r₂.fileSystem = r₁.fileSystem) := by
  have exact : b₁.writer.Exact := writer ▸ Writer.writeLines_exact
  obtain ⟨treated, touched⟩ := annotateFiles_treated exact (FileSystem.candidates_apart found)
  obtain ⟨paths, _⟩ := outcomes_of_treated treated
  refine ⟨_, annotateTree_eq_ok found, paths, ?_⟩
  intro written
  have names := annotateFiles_sameNames writer fs files
  have found₂ := (FileSystem.candidates_congr names root s).trans found
  obtain ⟨outcomes₂, again, settled⟩ := annotateFiles_again b₂ treated mode noFeed touched.layout
    fun o ho n error => Summary.not_writeFailed written ho n error
  refine ⟨found₂, _, annotateTree_eq_ok found₂, ?_⟩
  rw [again]
  refine ⟨(file_of_settled settled).trans paths, settled, ?_, rfl⟩
  rw [Summary.notesAdded_ofOutcomes, added_of_settled settled]

theorem annotateTree_twice_sample :
    ∃ r₁, ({} : Batch).annotateTree FileSystem.sample "." {} = .ok r₁ ∧
      r₁.summary.notesAdded = 1 ∧ r₁.summary.writeFailures = [] ∧
      ∃ r₂, ({ template := { locale := .arabic }, mode := .dryRun } : Batch).annotateTree
          r₁.fileSystem "." {} = .ok r₂ ∧
        r₂.summary.notesAdded = 0 ∧ r₂.fileSystem = r₁.fileSystem := by
  obtain ⟨r₁, run, _, twice⟩ := annotateTree_twice {}
    { template := { locale := .arabic }, mode := .dryRun } rfl rfl (by decide)
    FileSystem.candidates_sample
  have first : (({} : Batch).annotateTree FileSystem.sample "." {}).toOption.map
      (fun r => (r.summary.notesAdded, r.summary.writeFailures)) = some (1, []) := by
    decide +kernel
  rw [run] at first
  obtain ⟨added, written⟩ := Prod.mk.inj (Option.some.inj first)
  obtain ⟨_, r₂, run₂, _, _, none, same⟩ := twice written
  exact ⟨r₁, run, added, written, r₂, run₂, none, same⟩

end Batch
end HeaderNotes

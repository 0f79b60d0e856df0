import HeaderNotes.Command.Run
import HeaderNotes.Proofs.Batch.Treatment

/-!
What a run changes. After a run exactly the annotated files hold something else: the lines of their
notes among the lines that they held before. No file comes or goes, and files that could not be read
or written do not keep their neighbours from being worked on. A run that only tells what it would
do, one that does not find its starting point, and a listing change nothing at all.
-/

namespace HeaderNotes

namespace Batch

/-- What a run from `fs` leaves, going by its outcomes. -/
structure Effect (t : Template) (fs : FileSystem) (r : Result) : Prop where
  working : r.fileSystem.working = fs.working
  folders : ∀ q, r.fileSystem.tree.isFolder q = fs.tree.isFolder q
  files : ∀ q, (r.fileSystem.tree.content? q).isSome = (fs.tree.content? q).isSome
  /-- An annotated file holds its old lines with the notes among them. -/
  annotated : ∀ o ∈ r.outcomes, ∀ n, o.status = .annotated n →
    ∃ place text, fs.locate o.file = .ok place ∧
      fs.tree.content? place = some text.toUTF8 ∧
      r.fileSystem.tree.content? place =
        some (Text.unlines (Source.annotate t (Text.lines text)).lines).toUTF8
  /-- A file that holds something else is annotated. -/
  only : ∀ q, r.fileSystem.tree.content? q ≠ fs.tree.content? q →
    ∃ o ∈ r.outcomes, fs.locate o.file = .ok q ∧ ∃ n, o.status = .annotated n

theorem Treated.kept_of_not_annotated {b : Batch} {fs fs' : FileSystem} {file : Location}
    {o : Outcome} (h : Treated b fs fs' file o) (hn : ∀ n, o.status ≠ .annotated n) :
    fs.KeptAt file fs' := by
  cases h with
  | skipped _ kept | left _ kept | pending _ _ kept | refused _ _ kept => exact kept
  | annotated => exact absurd rfl (hn _)

theorem Treated.content_of_annotated {b : Batch} {fs fs' : FileSystem} {file : Location}
    {o : Outcome} (h : Treated b fs fs' file o) {n : Nat} (hn : o.status = .annotated n) :
    ∃ place text, fs.locate file = .ok place ∧ fs.tree.content? place = some text.toUTF8 ∧
      fs'.tree.content? place =
        some (Text.unlines (Source.annotate b.template (Text.lines text)).lines).toUTF8 := by
  cases h with
  | skipped | left | pending | refused => simp [changed] at hn
  | @annotated a place plan _ located written =>
      obtain ⟨lines, hr, rfl, _⟩ := plan_eq_insert plan
      obtain ⟨place', text, hl, hc, rfl⟩ := FileSystem.readLines_eq_ok_iff.mp hr
      obtain rfl : place = place' := Except.ok.inj (located.symm.trans hl)
      exact ⟨place, text, located, hc, written⟩

theorem effect_of_treated {b : Batch} {fs : FileSystem} {files : List Location} {r : Result}
    (treated : List.Forall₂ (Treated b fs r.fileSystem) files r.outcomes)
    (touched : fs.Touched files r.fileSystem) : Effect b.template fs r := by
  obtain ⟨hfiles, houtcomes⟩ := outcomes_of_treated treated
  refine ⟨touched.layout.working, touched.layout.folders, touched.layout.files, ?_, ?_⟩
  · intro o ho n hn
    exact (houtcomes o ho).content_of_annotated hn
  · intro q hq
    by_contra hnone
    push Not at hnone
    apply hq
    -- Either the place belongs to a file of the run, which then kept its content, or to none.
    by_cases hplace : ∃ o ∈ r.outcomes, fs.locate o.file = .ok q
    · obtain ⟨o, ho, hl⟩ := hplace
      exact (houtcomes o ho).kept_of_not_annotated (hnone o ho hl) q hl
    · apply touched.elsewhere
      intro file hfile hl
      rw [← hfiles] at hfile
      obtain ⟨o, ho, rfl⟩ := List.mem_map.mp hfile
      exact hplace ⟨o, ho, hl⟩

end Batch

namespace Command

theorem mode_eq_dryRun {o : AnnotateTask}
    (h : o.dryRun = true ∨ o.check = true ∨ o.format = some .diff) : o.mode = .dryRun := by
  rcases h with h | h | h <;> simp [AnnotateTask.mode, h]

theorem annotate_fileSystem_of_dryRun {o : AnnotateTask} (h : o.mode = .dryRun)
    (verbose : Bool) (settings : Settings) (fs : FileSystem) :
    (annotate o verbose settings fs).fileSystem = fs := by
  simp only [annotate]
  cases hc : fs.candidates (o.path.getD ".") (settings.change o.changes).toSelection with
  | error f => rw [Batch.annotateTree_eq_error hc]; rfl
  | ok files =>
      rw [Batch.annotateTree_eq_ok hc]
      exact Batch.annotateFiles_dryRun h fs files

theorem annotate_fileSystem_of_error {o : AnnotateTask} {settings : Settings} {fs : FileSystem}
    {f : Failure}
    (h : fs.candidates (o.path.getD ".") (settings.change o.changes).toSelection = .error f)
    (verbose : Bool) : (annotate o verbose settings fs).fileSystem = fs := by
  simp only [annotate]
  rw [Batch.annotateTree_eq_error h]
  rfl

theorem list_fileSystem (o : ListTask) (settings : Settings) (fs : FileSystem) :
    (list o settings fs).fileSystem = fs := by
  simp only [list]
  split <;> rfl

end Command

namespace Batch

/-- A run changes the files that it reports as annotated, and no others; a run that is dry, one that
fails, and a listing change none. -/
theorem annotateTree_effect (b : Batch) (exact : b.writer.Exact) (fs : FileSystem)
    (root : String) (s : Selection) :
    (∀ files, fs.candidates root s = .ok files →
      ∃ r, b.annotateTree fs root s = .ok r ∧ r.outcomes.map Outcome.file = files ∧
        Effect b.template fs r ∧ (b.mode = .dryRun → r.fileSystem = fs)) ∧
    (∀ f, fs.candidates root s = .error f → b.annotateTree fs root s = .error f) ∧
    (∀ (o : Command.AnnotateTask) (verbose : Bool) (settings : Settings),
      (o.dryRun = true ∨ o.check = true ∨ o.format = some .diff →
        o.mode = .dryRun ∧ (Command.annotate o verbose settings fs).fileSystem = fs) ∧
      ∀ f, fs.candidates (o.path.getD ".") (settings.change o.changes).toSelection = .error f →
        (Command.annotate o verbose settings fs).fileSystem = fs) ∧
    ∀ (o : Command.ListTask) (settings : Settings),
      (Command.list o settings fs).fileSystem = fs := by
  refine ⟨?_, fun f hf => annotateTree_eq_error hf, ?_, fun o settings => ?_⟩
  · intro files hc
    obtain ⟨treated, touched⟩ := annotateFiles_treated exact (FileSystem.candidates_apart hc)
    refine ⟨_, annotateTree_eq_ok hc, (outcomes_of_treated treated).1, ?_, ?_⟩
    · exact effect_of_treated treated touched
    · intro mode
      exact annotateFiles_dryRun mode fs files
  · intro o verbose settings
    refine ⟨fun h => ?_, fun f hf => Command.annotate_fileSystem_of_error hf verbose⟩
    have mode := Command.mode_eq_dryRun h
    exact ⟨mode, Command.annotate_fileSystem_of_dryRun mode verbose settings fs⟩
  · exact Command.list_fileSystem o settings fs

theorem annotateTree_effect_sample :
    Writer.Exact FileSystem.writeLines ∧
      ∃ r, ({} : Batch).annotateTree .sample "." {} = .ok r ∧
        r.outcomes.map Outcome.file = [⟨".", ["a.js"]⟩, ⟨".", ["b.js"]⟩] ∧
        Effect {} .sample r := by
  obtain ⟨r, hr, hfiles, effect, _⟩ :=
    (annotateTree_effect {} Writer.writeLines_exact .sample "." {}).1 _
      FileSystem.candidates_sample
  exact ⟨Writer.writeLines_exact, r, hr, hfiles, effect⟩

end Batch

end HeaderNotes

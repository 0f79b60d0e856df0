import HeaderNotes.Proofs.Batch.Treatment

/-!
A dry run tells what a real run does. Both plan the same for every file, although the real run
writes between one file and the next; so their outcomes go side by side, and the preview of a file
shows what the real run leaves in it. The totals differ only in what says whether notes were
written.
-/

namespace HeaderNotes

namespace Batch

/-- The run that keeps previews and writes nothing. -/
def dry (b : Batch) : Batch := { b with mode := .dryRun, previews := true }

def real (b : Batch) : Batch := { b with mode := .apply }

/-- The outcome `d` of a dry run tells the outcome `a` of a real run from `fs` to `fs'`. -/
structure Predicts (fs fs' : FileSystem) (d a : Outcome) : Prop where
  file : a.file = d.file
  byKind : a.byKind = d.byKind
  status :
    d.status = .unchanged ∧ a.status = .unchanged ∨
    (∃ error, d.status = .readFailed error ∧ a.status = .readFailed error) ∨
    ∃ n, 0 < n ∧ d.status = .pending n ∧
      (a.status = .annotated n ∨ ∃ error, a.status = .writeFailed n error)
  preview : d.preview.isSome ↔ ∃ n, d.status = .pending n
  /-- The preview starts from what the file holds before the run. -/
  before : ∀ p, d.preview = some p → fs.read d.file = .ok p.before.toUTF8
  /-- The preview ends with what the real run leaves in the file. -/
  after : ∀ p, d.preview = some p → (∃ n, a.status = .annotated n) →
    fs'.read d.file = .ok p.content.toUTF8

/-- The totals of two runs that find the same to do. -/
structure SameTotals (s s' : Summary) : Prop where
  filesProcessed : s.filesProcessed = s'.filesProcessed
  filesChanged : s.filesChanged = s'.filesChanged
  notesAdded : s.notesAdded = s'.notesAdded
  byKind : s.byKind = s'.byKind
  readFailures : s.readFailures = s'.readFailures

variable {fs fs' : FileSystem}

theorem Predicts.added {d a : Outcome} (h : Predicts fs fs' d a) : d.added = a.added := by
  simp only [Outcome.added]
  rcases h.status with ⟨hd, ha⟩ | ⟨error, hd, ha⟩ | ⟨n, _, hd, ha | ⟨error, ha⟩⟩ <;>
    simp [hd, ha, Status.added]

theorem SameTotals.count {s s' : Summary} (hs : SameTotals s s') {d a : Outcome}
    (h : Predicts fs fs' d a) : SameTotals (s.count d) (s'.count a) := by
  refine ⟨?_, ?_, ?_, ?_, ?_⟩
  · simp only [Summary.count, hs.filesProcessed]
  · simp only [Summary.count, hs.filesChanged, h.added]
  · simp only [Summary.count, hs.notesAdded, h.added]
  · simp only [Summary.count, hs.byKind, h.added, h.byKind]
  · simp only [Summary.count, hs.readFailures, h.file]
    rcases h.status with ⟨hd, ha⟩ | ⟨error, hd, ha⟩ | ⟨n, _, hd, ha | ⟨error, ha⟩⟩ <;>
      simp only [hd, ha]

theorem sameTotals_ofOutcomes {ds as : List Outcome}
    (h : List.Forall₂ (Predicts fs fs') ds as) (applied applied' : Bool) :
    SameTotals (Summary.ofOutcomes ds applied) (Summary.ofOutcomes as applied') := by
  suffices fold : ∀ s s', SameTotals s s' →
      SameTotals (ds.foldl Summary.count s) (as.foldl Summary.count s') from
    fold _ _ ⟨rfl, rfl, rfl, rfl, rfl⟩
  induction h with
  | nil => exact fun s s' hs => hs
  | cons hd _ ih => exact fun s s' hs => ih _ _ (hs.count hd)

/-- Two lists that go with a third one go with each other. -/
theorem forall₂_join {α β γ : Type} {R : α → β → Prop} {S : α → γ → Prop} {T : β → γ → Prop}
    {xs : List α} {ys : List β} {zs : List γ} (hy : List.Forall₂ R xs ys)
    (hz : List.Forall₂ S xs zs) (join : ∀ x y z, R x y → S x z → T y z) :
    List.Forall₂ T ys zs := by
  induction hy generalizing zs with
  | nil => cases hz; exact .nil
  | cons hr _ ih =>
      cases hz with
      | cons hs hz => exact .cons (join _ _ _ hr hs) (ih hz)

theorem before_annotate (t : Template) (text : String) :
    (Source.annotate t (Text.lines text)).before = text := by
  rw [Source.Annotated.before, Source.keptLines_annotate, Text.unlines_lines]

section Predicts

variable {b : Batch} {file : Location}

theorem predicts_changed {a : Source.Annotated} (plan : fs.plan b.template file = .insert a)
    {status : Status}
    (hstatus : status = .annotated a.added ∨ ∃ error, status = .writeFailed a.added error)
    (written : (∃ n, status = .annotated n) →
      ∃ place, fs'.locate file = .ok place ∧ fs'.tree.content? place = some a.content.toUTF8) :
    Predicts fs fs' (b.dry.changed file a (.pending a.added)) (b.real.changed file a status) := by
  obtain ⟨lines, hr, rfl, hpos⟩ := plan_eq_insert plan
  obtain ⟨place, text, hl, hc, rfl⟩ := FileSystem.readLines_eq_ok_iff.mp hr
  refine ⟨rfl, rfl, .inr (.inr ⟨_, hpos, rfl, hstatus⟩), by simp [changed, dry], ?_, ?_⟩
  · intro p hp
    obtain rfl : Source.annotate b.template (Text.lines text) = p := by
      simpa [changed, dry] using hp
    rw [before_annotate]
    exact FileSystem.read_eq_ok_iff.mpr ⟨place, hl, hc⟩
  · intro p hp hs
    obtain rfl : Source.annotate b.template (Text.lines text) = p := by
      simpa [changed, dry] using hp
    exact FileSystem.read_eq_ok_iff.mpr (written hs)

/-- Both runs treat a file by the same plan. -/
theorem predicts_of_treated {d a : Outcome} (layout : fs.SameLayout fs')
    (told : Treated b.dry fs fs file d) (done : Treated b.real fs fs' file a) :
    Predicts fs fs' d a := by
  cases told with
  | skipped plan =>
      cases done with
      | skipped plan' =>
          obtain rfl := Plan.skip.inj (plan.symm.trans plan')
          exact ⟨rfl, rfl, .inr (.inl ⟨_, rfl, rfl⟩), by simp, by simp, by simp⟩
      | left plan' | pending plan' | annotated plan' | refused plan' =>
          cases plan.symm.trans plan'
  | left plan =>
      cases done with
      | left plan' => exact ⟨rfl, rfl, .inl ⟨rfl, rfl⟩, by simp, by simp, by simp⟩
      | skipped plan' | pending plan' | annotated plan' | refused plan' =>
          cases plan.symm.trans plan'
  | pending plan =>
      cases done with
      | skipped plan' | left plan' => cases plan.symm.trans plan'
      | pending _ mode => cases mode
      | annotated plan' _ located written =>
          obtain rfl := Plan.insert.inj (plan.symm.trans plan')
          apply predicts_changed (b := b) plan (.inl rfl)
          intro _
          exact ⟨_, (FileSystem.locate_congr layout file).trans located, written⟩
      | refused plan' =>
          obtain rfl := Plan.insert.inj (plan.symm.trans plan')
          exact predicts_changed (b := b) plan (.inr ⟨_, rfl⟩) (by simp)
  | annotated _ mode | refused _ mode => cases mode

end Predicts

/-- A dry run and a real run from the same files fail alike, or else their outcomes go side by side
as told and their totals agree. -/
theorem dryRun_predicts (b : Batch) (exact : b.writer.Exact) (fs : FileSystem) (root : String)
    (s : Selection) :
    (∀ f, fs.candidates root s = .error f →
      b.dry.annotateTree fs root s = .error f ∧ b.real.annotateTree fs root s = .error f) ∧
    ∀ files, fs.candidates root s = .ok files →
      ∃ d a, b.dry.annotateTree fs root s = .ok d ∧ b.real.annotateTree fs root s = .ok a ∧
        d.outcomes.map Outcome.file = files ∧
        List.Forall₂ (Predicts fs a.fileSystem) d.outcomes a.outcomes ∧
        SameTotals d.summary a.summary := by
  refine ⟨fun f hf => ⟨annotateTree_eq_error hf, annotateTree_eq_error hf⟩, ?_⟩
  intro files hc
  have apart := FileSystem.candidates_apart hc
  obtain ⟨told, _⟩ := annotateFiles_treated (b := b.dry) exact apart
  obtain ⟨done, touched⟩ := annotateFiles_treated (b := b.real) exact apart
  have unchanged : (b.dry.annotateFiles fs files).2 = fs := annotateFiles_dryRun rfl fs files
  rw [unchanged] at told
  have predicts := forall₂_join told done
    fun _ _ _ ht hd => predicts_of_treated touched.layout ht hd
  refine ⟨_, _, annotateTree_eq_ok hc, annotateTree_eq_ok hc, (outcomes_of_treated told).1,
    predicts, ?_⟩
  exact sameTotals_ofOutcomes predicts _ _

theorem dryRun_predicts_sample :
    Writer.Exact FileSystem.writeLines ∧
      ∃ d a, (dry {}).annotateTree .sample "." {} = .ok d ∧
        (real {}).annotateTree .sample "." {} = .ok a ∧
        d.outcomes.map Outcome.file = [⟨".", ["a.js"]⟩, ⟨".", ["b.js"]⟩] ∧
        List.Forall₂ (Predicts .sample a.fileSystem) d.outcomes a.outcomes ∧
        SameTotals d.summary a.summary :=
  ⟨Writer.writeLines_exact,
    (dryRun_predicts {} Writer.writeLines_exact .sample "." {}).2 _ FileSystem.candidates_sample⟩

end Batch
end HeaderNotes

import HeaderNotes.Batch.Run
import HeaderNotes.Proofs.Files.Candidates
import Mathlib.Data.List.Forall2

/-!
What a run does to each of its files. The files are planned one after the other in a file system
that changes in between; as no two of them are found at the same place, each is planned as if it
were the first, and what was written for it stays until the end of the run.
-/

namespace HeaderNotes

namespace FileSystem

/-- The file at a place has a new content, and nothing else is changed. -/
structure Replaced (fs : FileSystem) (place : List String) (content : ByteArray)
    (fs' : FileSystem) : Prop where
  working : fs'.working = fs.working
  folders : ∀ q, fs'.tree.isFolder q = fs.tree.isFolder q
  files : ∀ q, fs'.tree.content? q = if q = place then some content else fs.tree.content? q

/-- The file at a location has the content that it had. -/
def KeptAt (fs : FileSystem) (file : Location) (fs' : FileSystem) : Prop :=
  ∀ place, fs.locate file = .ok place → fs'.tree.content? place = fs.tree.content? place

/-- At most the given files have other contents. -/
structure Touched (fs : FileSystem) (files : List Location) (fs' : FileSystem) : Prop where
  layout : SameLayout fs fs'
  elsewhere : ∀ q, (∀ file ∈ files, fs.locate file ≠ .ok q) →
    fs'.tree.content? q = fs.tree.content? q

theorem Touched.refl (fs : FileSystem) (files : List Location) : fs.Touched files fs :=
  ⟨.refl fs, fun _ _ => rfl⟩

theorem Replaced.touched {fs fs' : FileSystem} {file : Location} {place : List String}
    {content : ByteArray} (h : fs.Replaced place content fs') (hl : fs.locate file = .ok place)
    (hc : (fs.tree.content? place).isSome) : fs.Touched [file] fs' := by
  refine ⟨⟨h.working, h.folders, fun q => ?_⟩, fun q hq => ?_⟩
  · rw [h.files]
    split
    · rename_i hp
      rw [hp, hc]
      rfl
    · rfl
  · have hp : q ≠ place := by
      rintro rfl
      exact hq file List.mem_cons_self hl
    rw [h.files, if_neg hp]

/-- A file that can be read can be written, and only its content changes then. -/
theorem writeLines_eq {fs : FileSystem} {file : Location} {place : List String}
    (hl : fs.locate file = .ok place) (hc : (fs.tree.content? place).isSome)
    (lines : List String) :
    fs.writeLines file lines =
      .ok { fs with tree := fs.tree.insert (.file (Text.unlines lines).toUTF8) place } := by
  simp [writeLines, write, destination_eq_ok hl hc, bind, Except.bind, Except.mapError]

end FileSystem

/-- A way of writing that replaces the content of the file that it is given and changes nothing
else, or fails. -/
def Writer.Exact (w : Writer) : Prop :=
  ∀ {fs fs' : FileSystem} {file : Location} {place : List String} {lines : List String},
    fs.locate file = .ok place → (fs.tree.content? place).isSome → w fs file lines = .ok fs' →
      fs.Replaced place (Text.unlines lines).toUTF8 fs'

theorem Writer.writeLines_exact : Writer.Exact FileSystem.writeLines := by
  intro fs fs' file place lines hl hc hw
  rw [FileSystem.writeLines_eq hl hc] at hw
  obtain rfl := Except.ok.inj hw
  exact ⟨rfl, fun q => Directory.isFolder_insert hc _ q,
    fun q => Directory.content?_insert hc _ q⟩

section Plan

variable {fs : FileSystem} {t : Template} {file : Location}

theorem plan_eq_skip {error : String} (h : fs.plan t file = .skip error) :
    ∃ cause, fs.readLines file = .error cause ∧
      error = (Failure.unreadable file cause).message := by
  simp only [FileSystem.plan] at h
  split at h
  · rename_i cause hr
    exact ⟨cause, hr, (Plan.skip.inj h).symm⟩
  · split at h <;> simp at h

theorem plan_of_lines {lines : List String} (h : fs.readLines file = .ok lines) :
    fs.plan t file =
      if (Source.annotate t lines).added = 0 then .leave
      else .insert (Source.annotate t lines) := by
  simp only [FileSystem.plan, h, Source.Annotated.isChanged]
  by_cases h0 : (Source.annotate t lines).added = 0
  · simp [h0]
  · simp [h0, Nat.pos_of_ne_zero h0]

theorem plan_of_error {cause : Cause} (h : fs.readLines file = .error cause) :
    fs.plan t file = .skip (Failure.unreadable file cause).message := by
  simp only [FileSystem.plan, h]

theorem plan_eq_leave (h : fs.plan t file = .leave) :
    ∃ lines, fs.readLines file = .ok lines ∧ (Source.annotate t lines).added = 0 := by
  cases hr : fs.readLines file with
  | error cause => simp [plan_of_error hr] at h
  | ok lines =>
      rw [plan_of_lines hr] at h
      split at h
      · exact ⟨lines, rfl, ‹_›⟩
      · simp at h

theorem plan_eq_insert {a : Source.Annotated} (h : fs.plan t file = .insert a) :
    ∃ lines, fs.readLines file = .ok lines ∧ a = Source.annotate t lines ∧ 0 < a.added := by
  cases hr : fs.readLines file with
  | error cause => simp [plan_of_error hr] at h
  | ok lines =>
      rw [plan_of_lines hr] at h
      split at h
      · simp at h
      · obtain rfl := Plan.insert.inj h
        exact ⟨lines, rfl, rfl, Nat.pos_of_ne_zero ‹_›⟩

/-- Notes are only ever planned for a file that is found. -/
theorem plan_insert_located {a : Source.Annotated} (h : fs.plan t file = .insert a) :
    ∃ place, fs.locate file = .ok place ∧ (fs.tree.content? place).isSome := by
  obtain ⟨lines, hr, _, _⟩ := plan_eq_insert h
  obtain ⟨place, text, hl, hc, _⟩ := FileSystem.readLines_eq_ok_iff.mp hr
  exact ⟨place, hl, by rw [hc]; rfl⟩

theorem plan_congr {fs' : FileSystem} (layout : fs.SameLayout fs') (kept : fs.KeptAt file fs') :
    fs'.plan t file = fs.plan t file := by
  simp only [FileSystem.plan, FileSystem.readLines_congr layout kept]

end Plan

namespace Batch

/-- The outcome for a file that notes are missing from. -/
def changed (b : Batch) (file : Location) (a : Source.Annotated) (status : Status) : Outcome :=
  { file, status, byKind := a.byKind, preview := if b.previews then some a else none }

section Commit

variable {b : Batch} {fs : FileSystem} {file : Location} {a : Source.Annotated}

theorem commit_dryRun (mode : b.mode = .dryRun) :
    b.commit file (.insert a) fs = (b.changed file a (.pending a.added), fs) := by
  simp [commit, mode, changed]

theorem commit_written (mode : b.mode = .apply) {fs' : FileSystem}
    (hw : b.writer fs file a.lines = .ok fs') :
    b.commit file (.insert a) fs = (b.changed file a (.annotated a.added), fs') := by
  simp [commit, mode, hw, changed]

theorem commit_refused (mode : b.mode = .apply) {cause : Cause}
    (hw : b.writer fs file a.lines = .error cause) :
    b.commit file (.insert a) fs =
      (b.changed file a (.writeFailed a.added (Failure.unwritable file cause).message), fs) := by
  simp [commit, mode, hw, changed]

end Commit

/-- What became of one file of a run from `fs` to `fs'`: the plan that was made for it at the
start, the outcome, and what the file holds at the end. -/
inductive Treated (b : Batch) (fs fs' : FileSystem) (file : Location) : Outcome → Prop
  | skipped {error : String} (plan : fs.plan b.template file = .skip error)
      (kept : fs.KeptAt file fs') : Treated b fs fs' file { file, status := .readFailed error }
  | left (plan : fs.plan b.template file = .leave) (kept : fs.KeptAt file fs') :
      Treated b fs fs' file { file, status := .unchanged }
  | pending {a : Source.Annotated} (plan : fs.plan b.template file = .insert a)
      (mode : b.mode = .dryRun) (kept : fs.KeptAt file fs') :
      Treated b fs fs' file (b.changed file a (.pending a.added))
  | annotated {a : Source.Annotated} {place : List String}
      (plan : fs.plan b.template file = .insert a) (mode : b.mode = .apply)
      (located : fs.locate file = .ok place)
      (written : fs'.tree.content? place = some a.content.toUTF8) :
      Treated b fs fs' file (b.changed file a (.annotated a.added))
  | refused {a : Source.Annotated} {error : String}
      (plan : fs.plan b.template file = .insert a) (mode : b.mode = .apply)
      (kept : fs.KeptAt file fs') :
      Treated b fs fs' file (b.changed file a (.writeFailed a.added error))

theorem Treated.file_eq {b : Batch} {fs fs' : FileSystem} {file : Location} {o : Outcome}
    (h : Treated b fs fs' file o) : o.file = file := by
  cases h <;> rfl

/-- What is known of a file stays true while it keeps its content. -/
theorem Treated.later {b : Batch} {fs fs₁ fs₂ : FileSystem} {file : Location} {o : Outcome}
    (h : Treated b fs fs₁ file o)
    (same : ∀ place, fs.locate file = .ok place →
      fs₂.tree.content? place = fs₁.tree.content? place) : Treated b fs fs₂ file o := by
  cases h with
  | skipped plan kept => exact .skipped plan fun p hp => (same p hp).trans (kept p hp)
  | left plan kept => exact .left plan fun p hp => (same p hp).trans (kept p hp)
  | pending plan mode kept => exact .pending plan mode fun p hp => (same p hp).trans (kept p hp)
  | annotated plan mode located written =>
      exact .annotated plan mode located ((same _ located).trans written)
  | refused plan mode kept => exact .refused plan mode fun p hp => (same p hp).trans (kept p hp)

section Run

variable {b : Batch}

/-- One file is treated by the plan made at the start, and nothing but this file is touched. -/
theorem annotateFile_treated (exact : b.writer.Exact) {fs₀ fs : FileSystem} {file : Location}
    (layout : fs₀.SameLayout fs) (kept : fs₀.KeptAt file fs) :
    Treated b fs₀ (b.annotateFile fs file).2 file (b.annotateFile fs file).1 ∧
      fs.Touched [file] (b.annotateFile fs file).2 := by
  have hplan := plan_congr (t := b.template) layout kept
  simp only [annotateFile, hplan]
  cases hp : fs₀.plan b.template file with
  | skip error => exact ⟨.skipped hp kept, .refl fs _⟩
  | leave => exact ⟨.left hp kept, .refl fs _⟩
  | insert a =>
      cases hm : b.mode with
      | dryRun =>
          rw [commit_dryRun hm]
          exact ⟨.pending hp hm kept, .refl fs _⟩
      | apply =>
          cases hw : b.writer fs file a.lines with
          | error cause =>
              rw [commit_refused hm hw]
              exact ⟨.refused hp hm kept, .refl fs _⟩
          | ok fs' =>
              obtain ⟨place, hl, hsome⟩ := plan_insert_located (hplan.trans hp)
              have replaced := exact hl hsome hw
              have hl₀ : fs₀.locate file = .ok place := by
                rw [← hl, FileSystem.locate_congr layout]
              have written : fs'.tree.content? place = some a.content.toUTF8 := by
                rw [replaced.files, if_pos rfl]
                rfl
              rw [commit_written hm hw]
              exact ⟨.annotated hp hm hl₀ written, replaced.touched hl hsome⟩

/-- Each file of a run is treated by the plan made at the start of the run. -/
theorem annotateFiles_treated_from (exact : b.writer.Exact) {fs₀ : FileSystem}
    {files : List Location} (apart : fs₀.Apart files) {fs : FileSystem}
    (layout : fs₀.SameLayout fs) (kept : ∀ file ∈ files, fs₀.KeptAt file fs) :
    List.Forall₂ (Treated b fs₀ (b.annotateFiles fs files).2) files (b.annotateFiles fs files).1 ∧
      fs.Touched files (b.annotateFiles fs files).2 := by
  -- The files still to come are as they were at the start, since they are found elsewhere.
  induction files generalizing fs with
  | nil => exact ⟨.nil, .refl fs _⟩
  | cons file files ih =>
      obtain ⟨hfile, hfiles⟩ := List.pairwise_cons.mp apart
      obtain ⟨treated, touched⟩ := annotateFile_treated exact layout (kept file List.mem_cons_self)
      have layout' := layout.trans touched.layout
      have kept' : ∀ g ∈ files, fs₀.KeptAt g (b.annotateFile fs file).2 := by
        intro g hg place hp
        have hother : ∀ f ∈ [file], fs.locate f ≠ .ok place := by
          intro f hf hl
          obtain rfl := List.mem_singleton.mp hf
          rw [FileSystem.locate_congr layout] at hl
          exact hfile g hg place hl hp
        exact (touched.elsewhere place hother).trans (kept g (List.mem_cons_of_mem _ hg) place hp)
      obtain ⟨others, touched'⟩ := ih hfiles layout' kept'
      -- The files that follow leave this one as it is.
      have same : ∀ place, fs₀.locate file = .ok place →
          (b.annotateFiles (b.annotateFile fs file).2 files).2.tree.content? place =
            (b.annotateFile fs file).2.tree.content? place := by
        intro place hp
        apply touched'.elsewhere
        intro g hg hl
        rw [FileSystem.locate_congr layout'] at hl
        exact hfile g hg place hp hl
      refine ⟨.cons (treated.later same) others, touched.layout.trans touched'.layout, ?_⟩
      intro q hq
      have hrest : ∀ g ∈ files, (b.annotateFile fs file).2.locate g ≠ .ok q := by
        intro g hg
        rw [FileSystem.locate_congr touched.layout]
        exact hq g (List.mem_cons_of_mem _ hg)
      have hhere : ∀ f ∈ [file], fs.locate f ≠ .ok q := by
        intro f hf
        obtain rfl := List.mem_singleton.mp hf
        exact hq f List.mem_cons_self
      exact (touched'.elsewhere q hrest).trans (touched.elsewhere q hhere)

theorem annotateFiles_treated (exact : b.writer.Exact) {fs : FileSystem}
    {files : List Location} (apart : fs.Apart files) :
    List.Forall₂ (Treated b fs (b.annotateFiles fs files).2) files (b.annotateFiles fs files).1 ∧
      fs.Touched files (b.annotateFiles fs files).2 :=
  annotateFiles_treated_from exact apart (.refl fs) fun _ _ _ _ => rfl

theorem outcomes_of_treated {fs fs' : FileSystem} {files : List Location}
    {outcomes : List Outcome} (h : List.Forall₂ (Treated b fs fs') files outcomes) :
    outcomes.map Outcome.file = files ∧ ∀ o ∈ outcomes, Treated b fs fs' o.file o := by
  induction h with
  | nil => exact ⟨rfl, by simp⟩
  | @cons file o files outcomes treated _ ih =>
      have hfile := treated.file_eq
      refine ⟨by rw [List.map_cons, hfile, ih.1], ?_⟩
      intro p hp
      rcases List.mem_cons.mp hp with rfl | hp
      · rwa [hfile]
      · exact ih.2 p hp

theorem annotateTree_eq_ok {fs : FileSystem} {root : String} {s : Selection}
    {files : List Location} (h : fs.candidates root s = .ok files) :
    b.annotateTree fs root s =
      .ok ⟨(b.annotateFiles fs files).1,
        Summary.ofOutcomes (b.annotateFiles fs files).1 (b.mode == .apply),
        (b.annotateFiles fs files).2⟩ := by
  simp only [annotateTree, h]
  rfl

theorem annotateTree_eq_error {fs : FileSystem} {root : String} {s : Selection} {f : Failure}
    (h : fs.candidates root s = .error f) : b.annotateTree fs root s = .error f := by
  simp only [annotateTree, h]
  rfl

theorem annotateFile_dryRun (mode : b.mode = .dryRun) (fs : FileSystem)
    (file : Location) : (b.annotateFile fs file).2 = fs := by
  simp only [annotateFile]
  cases fs.plan b.template file with
  | skip error => rfl
  | leave => rfl
  | insert a => rw [commit_dryRun mode]

theorem annotateFiles_dryRun (mode : b.mode = .dryRun) (fs : FileSystem)
    (files : List Location) : (b.annotateFiles fs files).2 = fs := by
  induction files with
  | nil => rfl
  | cons file files ih => simp only [annotateFiles, annotateFile_dryRun mode, ih]

end Run

end Batch

/-- A file whose header has no note, one that is not text, and one in a hidden directory. -/
def FileSystem.sample : FileSystem where
  tree := .file "b.js" ⟨#[0xFF]⟩ (.file "a.js" "function f() \x7b\n".toUTF8
    (.folder ".git" (.file "c.js" "function g() \x7b\n".toUTF8 .empty) .empty))

theorem FileSystem.candidates_sample :
    sample.candidates "." {} = .ok [⟨".", ["a.js"]⟩, ⟨".", ["b.js"]⟩] := by
  decide +kernel

end HeaderNotes

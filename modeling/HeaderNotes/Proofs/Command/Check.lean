import HeaderNotes.Proofs.Batch.Effect
import HeaderNotes.Proofs.Batch.Totals
import HeaderNotes.Proofs.Source.Agreement

/-!
Checking and listing agree. A check annotates every file without writing and tells how many notes
are missing; a listing of what is missing looks at the headers only. Both layer the command line on
the settings in their own way, and still find the same files, the same headers in each of them and
the same reason to fail.
-/

namespace HeaderNotes

def Outcome.isPending (o : Outcome) : Bool :=
  match o.status with
  | .pending _ => true
  | _ => false

/-- A file that notes are missing from, as a check reports it and as a listing shows it. -/
structure Outcome.ListedAs (o : Outcome) (f : FileSites) : Prop where
  file : f.file = o.file
  status : o.status = .pending f.sites.length
  byKind : ∀ k, o.byKind.count? k =
    if (f.sites.countP fun s => s.header.kind == k) = 0 then none
    else some (f.sites.countP fun s => s.header.kind == k)

namespace FileSystem

variable {fs : FileSystem} {file : Location}

theorem sitesOf_of_lines {lines : List String} (h : fs.readLines file = .ok lines) :
    fs.sitesOf true file = Source.undocumented lines := by
  simp only [sitesOf, h, Source.undocumented, Bool.true_and]

theorem sitesOf_of_error {cause : Cause} (h : fs.readLines file = .error cause)
    (missingOnly : Bool) : fs.sitesOf missingOnly file = [] := by
  simp only [sitesOf, h]

/-- The files that have undocumented headers, with these headers. -/
def missing (fs : FileSystem) (files : List Location) : List FileSites :=
  (files.map fun file => ⟨file, fs.sitesOf true file⟩).filter fun f => !f.sites.isEmpty

theorem missing_cons_of_eq_nil (h : fs.sitesOf true file = []) (files : List Location) :
    fs.missing (file :: files) = fs.missing files := by
  simp [missing, h]

theorem missing_cons_of_ne_nil (h : fs.sitesOf true file ≠ []) (files : List Location) :
    fs.missing (file :: files) = ⟨file, fs.sitesOf true file⟩ :: fs.missing files := by
  simp [missing, h]

theorem sites_ne_nil_of_mem_missing {files : List Location} {f : FileSites}
    (h : f ∈ fs.missing files) : f.sites ≠ [] := by
  simpa using (List.mem_filter.mp h).2

theorem sum_pos_iff_missing {files : List Location} :
    0 < ((fs.missing files).map fun f => f.sites.length).sum ↔ fs.missing files ≠ [] := by
  refine ⟨?_, fun h => ?_⟩
  · intro h heq
    simp [heq] at h
  · obtain ⟨f, more, heq⟩ := List.exists_cons_of_ne_nil h
    have hf := sites_ne_nil_of_mem_missing (heq ▸ List.mem_cons_self : f ∈ fs.missing files)
    rw [heq, List.map_cons, List.sum_cons]
    exact Nat.add_pos_left (List.length_pos_iff.mpr hf) _

theorem collectSites_eq_ok {root : String} {s : Selection} {files : List Location}
    (h : fs.candidates root s = .ok files) :
    fs.collectSites root s true = .ok (fs.missing files) := by
  simp only [collectSites, h]
  rfl

theorem collectSites_eq_error {root : String} {s : Selection} {f : Failure}
    (h : fs.candidates root s = .error f) (missingOnly : Bool) :
    fs.collectSites root s missingOnly = .error f := by
  simp only [collectSites, h]
  rfl

end FileSystem

namespace Batch

variable {b : Batch} {fs : FileSystem} {file : Location}

/-- A check finds notes missing from a file exactly if the listing shows headers of it, and then
both count the same. -/
theorem Treated.listed {fs' : FileSystem} {o : Outcome} (h : Treated b fs fs' file o)
    (mode : b.mode = .dryRun) :
    o.isPending = false ∧ o.added = 0 ∧ fs.sitesOf true file = [] ∨
    o.isPending = true ∧ fs.sitesOf true file ≠ [] ∧
      o.ListedAs ⟨file, fs.sitesOf true file⟩ := by
  cases h with
  | skipped plan =>
      obtain ⟨cause, hr, _⟩ := plan_eq_skip plan
      exact .inl ⟨rfl, rfl, FileSystem.sitesOf_of_error hr true⟩
  | left plan =>
      obtain ⟨lines, hr, none⟩ := plan_eq_leave plan
      rw [Source.added_annotate, List.length_eq_zero_iff] at none
      exact .inl ⟨rfl, rfl, (FileSystem.sitesOf_of_lines hr).trans none⟩
  | pending plan =>
      obtain ⟨lines, hr, rfl, some⟩ := plan_eq_insert plan
      rw [FileSystem.sitesOf_of_lines hr]
      refine .inr ⟨rfl, ?_, rfl, ?_, fun k => ?_⟩
      · rwa [Source.added_annotate, List.length_pos_iff] at some
      · rw [changed, Source.added_annotate]
      · simp only [changed, Source.Annotated.byKind, Tally.count?_ofKinds,
          Source.count_kinds_annotate, List.countP_eq_length_filter]
  | annotated _ mode' | refused _ mode' => cases mode.symm.trans mode'

theorem listed_of_treated {files : List Location} {outcomes : List Outcome}
    (h : List.Forall₂ (Treated b fs fs) files outcomes) (mode : b.mode = .dryRun) :
    List.Forall₂ Outcome.ListedAs (outcomes.filter Outcome.isPending) (fs.missing files) ∧
      (outcomes.map Outcome.added).sum =
        ((fs.missing files).map fun f => f.sites.length).sum := by
  induction h with
  | nil => exact ⟨.nil, rfl⟩
  | @cons file o files outcomes treated _ ih =>
      obtain ⟨listed, total⟩ := ih
      rcases treated.listed mode with ⟨settled, none, empty⟩ | ⟨pending, ne, one⟩
      · rw [FileSystem.missing_cons_of_eq_nil empty, List.filter_cons_of_neg (by simp [settled])]
        exact ⟨listed, by rw [List.map_cons, List.sum_cons, none, total, Nat.zero_add]⟩
      · rw [FileSystem.missing_cons_of_ne_nil ne, List.filter_cons_of_pos pending]
        refine ⟨.cons one listed, ?_⟩
        simp [Outcome.added, one.status, Status.added, total]

theorem not_writeFailed_of_dryRun {files : List Location} {outcomes : List Outcome}
    (h : List.Forall₂ (Treated b fs fs) files outcomes) (mode : b.mode = .dryRun) :
    outcomes.filterMap Outcome.writeFailure? = [] := by
  induction h with
  | nil => rfl
  | @cons file o files outcomes treated _ ih =>
      have none : o.writeFailure? = none := by
        cases treated with
        | skipped | left | pending => rfl
        | annotated _ mode' | refused _ mode' => cases mode.symm.trans mode'
      rw [List.filterMap_cons_none none, ih]

end Batch

namespace Command

/-- The run that `annotate` reports on. -/
def AnnotateTask.run (o : AnnotateTask) (settings : Settings) (fs : FileSystem) :
    Except Failure Batch.Result :=
  (o.batch (settings.change o.changes)).annotateTree fs (o.path.getD ".")
    (settings.change o.changes).toSelection

/-- The headers that `list` reports on. -/
def ListTask.found (o : ListTask) (settings : Settings) (fs : FileSystem) :
    Except Failure (List FileSites) :=
  fs.collectSites (o.path.getD ".") (settings.toSelection.change o.changes) o.missingOnly

section Commands

variable {settings : Settings} {fs : FileSystem}

theorem annotate_of_error {o : AnnotateTask} {f : Failure} (h : o.run settings fs = .error f)
    (verbose : Bool) :
    annotate o verbose settings fs =
      fail (announcement verbose (o.path.getD ".") (settings.change o.changes)) f fs := by
  simp only [annotate]
  rw [← AnnotateTask.run, h]

theorem annotate_status_of_ok {o : AnnotateTask} {r : Batch.Result}
    (h : o.run settings fs = .ok r) (verbose : Bool) :
    (annotate o verbose settings fs).status = r.summary.exitStatus o.check := by
  simp only [annotate]
  rw [← AnnotateTask.run, h]

theorem list_of_error {o : ListTask} {f : Failure} (h : o.found settings fs = .error f) :
    list o settings fs = fail {} f fs := by
  simp only [list]
  rw [← ListTask.found, h]

theorem list_of_ok {o : ListTask} {files : List FileSites} (h : o.found settings fs = .ok files) :
    list o settings fs =
      { status := 0, output := Report.listing o.json files, fileSystem := fs } := by
  simp only [list]
  rw [← ListTask.found, h]

end Commands

theorem exitStatus_eq_one_iff {s : Summary} (h : s.writeFailures = []) :
    s.exitStatus true = 1 ↔ 0 < s.notesAdded := by
  simp [Summary.exitStatus, Summary.anyUnwritten, h]

/-- A check and a listing of what is missing, from the same place and for the same files, fail for
the same reason; or else the files listed are those that the check reports as pending, in the same
order and with the same numbers of headers, and the check fails exactly if something is listed. -/
theorem check_agrees_with_list (a : AnnotateTask) (l : ListTask) (verbose : Bool)
    (settings : Settings) (fs : FileSystem) (check : a.check = true)
    (missing : l.missingOnly = true) (path : l.path = a.path)
    (changes : l.changes = a.changes.toSelectionChanges) :
    (∃ f,
      fs.candidates (a.path.getD ".") (settings.change a.changes).toSelection = .error f ∧
      a.run settings fs = .error f ∧ l.found settings fs = .error f ∧
      annotate a verbose settings fs =
        fail (announcement verbose (a.path.getD ".") (settings.change a.changes)) f fs ∧
      list l settings fs = fail {} f fs) ∨
    ∃ r files,
      a.run settings fs = .ok r ∧ l.found settings fs = .ok files ∧
      List.Forall₂ Outcome.ListedAs (r.outcomes.filter Outcome.isPending) files ∧
      r.summary.notesAdded = (files.map fun f => f.sites.length).sum ∧
      (r.summary.exitStatus true = 1 ↔ files ≠ []) ∧
      (annotate a verbose settings fs).status = r.summary.exitStatus true ∧
      list l settings fs =
        { status := 0, output := Report.listing l.json files, fileSystem := fs } := by
  have mode : (a.batch (settings.change a.changes)).mode = .dryRun :=
    mode_eq_dryRun (.inr (.inl check))
  cases hc : fs.candidates (a.path.getD ".") (settings.change a.changes).toSelection with
  | error f =>
      have run : a.run settings fs = .error f := Batch.annotateTree_eq_error hc
      have found : l.found settings fs = .error f := by
        rw [ListTask.found, path, changes]
        exact FileSystem.collectSites_eq_error hc _
      exact .inl ⟨f, rfl, run, found, annotate_of_error run verbose, list_of_error found⟩
  | ok files =>
      have run := Batch.annotateTree_eq_ok (b := a.batch (settings.change a.changes)) hc
      have found : l.found settings fs = .ok (fs.missing files) := by
        rw [ListTask.found, path, changes, missing]
        exact FileSystem.collectSites_eq_ok hc
      obtain ⟨treated, _⟩ := Batch.annotateFiles_treated
        (b := a.batch (settings.change a.changes)) Writer.writeLines_exact
        (FileSystem.candidates_apart hc)
      rw [Batch.annotateFiles_dryRun mode] at treated
      obtain ⟨listed, total⟩ := Batch.listed_of_treated treated mode
      refine .inr ⟨_, _, run, found, listed, ?_, ?_, ?_, list_of_ok found⟩
      · rw [Summary.notesAdded_ofOutcomes, total]
      · rw [exitStatus_eq_one_iff, Summary.notesAdded_ofOutcomes, total,
          FileSystem.sum_pos_iff_missing]
        rw [Summary.writeFailures_ofOutcomes, Batch.not_writeFailed_of_dryRun treated mode]
      · rw [← check]
        exact annotate_status_of_ok run verbose

theorem check_agrees_with_list_sample :
    ∃ r files,
      ({ check := true } : AnnotateTask).run {} .sample = .ok r ∧
      ({ missingOnly := true } : ListTask).found {} .sample = .ok files ∧
      List.Forall₂ Outcome.ListedAs (r.outcomes.filter Outcome.isPending) files ∧
      files.map FileSites.file = [⟨".", ["a.js"]⟩] ∧ r.summary.exitStatus true = 1 := by
  have listed : (({ missingOnly := true } : ListTask).found {} .sample).toOption.map
      (fun files => files.map FileSites.file) = some [⟨".", ["a.js"]⟩] := by
    decide +kernel
  obtain ⟨f, _, _, found, _⟩ | ⟨r, files, run, found, agree, _, status, _⟩ :=
    check_agrees_with_list { check := true } { missingOnly := true } false {} .sample rfl rfl rfl
      rfl
  · rw [found] at listed
    simp [Except.toOption] at listed
  · rw [found] at listed
    have paths := Option.some.inj listed
    refine ⟨r, files, run, found, agree, paths, status.mpr ?_⟩
    rintro rfl
    simp at paths

end Command
end HeaderNotes

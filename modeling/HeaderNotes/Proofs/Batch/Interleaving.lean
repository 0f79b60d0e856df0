import HeaderNotes.Proofs.Batch.Treatment

/-!
Files worked on side by side. The work on a file has two steps: it is read and its plan is made, and
later the plan is carried out. The steps of different files may be taken in any order, each file's
first before its second; since no two files are found at the same place, a step leaves the others as
they are, and every order ends in the outcomes and the files of working through them one after the
other. So the number of workers does not matter.
-/

namespace HeaderNotes

namespace FileSystem

/-- The same directories, and the same files with the same content. -/
structure SameFiles (fs fs' : FileSystem) : Prop where
  working : fs'.working = fs.working
  folders : ∀ q, fs'.tree.isFolder q = fs.tree.isFolder q
  contents : ∀ q, fs'.tree.content? q = fs.tree.content? q

theorem SameFiles.refl (fs : FileSystem) : fs.SameFiles fs := ⟨rfl, fun _ => rfl, fun _ => rfl⟩

theorem Apart.locate_ne {fs : FileSystem} {files : List Location} (apart : fs.Apart files)
    {i j : Nat} (hne : i ≠ j) {a b : Location} (ha : files[i]? = some a)
    (hb : files[j]? = some b) {place : List String} (hl : fs.locate a = .ok place) :
    fs.locate b ≠ .ok place := by
  obtain ⟨hi, rfl⟩ := List.getElem?_eq_some_iff.mp ha
  obtain ⟨hj, rfl⟩ := List.getElem?_eq_some_iff.mp hb
  have pair := List.pairwise_iff_getElem.mp apart
  rcases Nat.lt_or_gt_of_ne hne with hlt | hlt
  · exact pair i j hi hj hlt place hl
  · exact fun hb => pair j i hj hi hlt place hb hl

theorem Touched.step {fs₀ fs fs' : FileSystem} {files : List Location} {file : Location}
    (h : fs₀.Touched files fs) (hfile : file ∈ files) (h' : fs.Touched [file] fs') :
    fs₀.Touched files fs' := by
  refine ⟨h.layout.trans h'.layout, fun q hq => ?_⟩
  have other : ∀ f ∈ [file], fs.locate f ≠ .ok q := by
    intro f hf
    obtain rfl := List.mem_singleton.mp hf
    rw [locate_congr h.layout]
    exact hq f hfile
  exact (h'.elsewhere q other).trans (h.elsewhere q hq)

end FileSystem

/-- A way of writing whose success, or cause of failure, depends on nothing but the file that it is
given. -/
def Writer.Independent (w : Writer) : Prop :=
  ∀ {fs fs' : FileSystem} {file : Location} {place : List String} {lines : List String},
    fs.locate file = .ok place → (fs.tree.content? place).isSome → fs.SameLayout fs' →
      fs.KeptAt file fs' → (w fs' file lines).map (fun _ => ()) = (w fs file lines).map fun _ => ()

theorem Writer.writeLines_independent : Writer.Independent FileSystem.writeLines := by
  intro fs fs' file place lines hl hc layout _
  have hl' : fs'.locate file = .ok place := (FileSystem.locate_congr layout file).trans hl
  have hc' : (fs'.tree.content? place).isSome := by rw [layout.files, hc]
  rw [FileSystem.writeLines_eq hl hc, FileSystem.writeLines_eq hl' hc']
  rfl

/-- How far the work on a file has come. -/
inductive Progress
  | waiting
  | planned (plan : Plan)
  | finished (outcome : Outcome)

/-- The outcome for a file, once the work on it is finished. -/
def Progress.outcome? : Progress → Option Outcome
  | finished outcome => some outcome
  | _ => none

/-- How many steps have been taken for a file. -/
def Progress.steps : Progress → Nat
  | waiting => 0
  | planned _ => 1
  | finished _ => 2

structure Job where
  file : Location
  progress : Progress

def Job.waiting (file : Location) : Job :=
  { file, progress := .waiting }

/-- The files that are worked on, in the order in which they were given, and the file system as it
is by now. -/
structure Work where
  fileSystem : FileSystem
  jobs : List Job

namespace Work

def start (fs : FileSystem) (files : List Location) : Work :=
  { fileSystem := fs, jobs := files.map .waiting }

/-- The outcomes of the files that are finished, in order. -/
def outcomes (w : Work) : List Outcome :=
  w.jobs.filterMap fun job => job.progress.outcome?

/-- How many steps have been taken for the file with the given number. -/
def stepsAt (w : Work) (i : Nat) : Option Nat :=
  w.jobs[i]?.map fun job => job.progress.steps

end Work

namespace Batch

/-- Takes the next step for a file: it is read, or its plan is carried out. -/
def advance (b : Batch) (fs : FileSystem) (job : Job) : Job × FileSystem :=
  match job.progress with
  | .waiting => ({ job with progress := .planned (fs.plan b.template job.file) }, fs)
  | .planned plan =>
    let (outcome, fs) := b.commit job.file plan fs
    ({ job with progress := .finished outcome }, fs)
  | .finished _ => (job, fs)

def turn (b : Batch) (w : Work) (i : Nat) : Work :=
  match w.jobs[i]? with
  | some job =>
    let (job, fs) := b.advance w.fileSystem job
    { fileSystem := fs, jobs := w.jobs.set i job }
  | none => w

/-- Gives turns to files in the order of a schedule. -/
def turns (b : Batch) (w : Work) (schedule : List Nat) : Work :=
  schedule.foldl b.turn w

/-- What working on files may end in. One worker takes the files in order, and so is it done for any
number of workers if no pool of them can be set up; the workers of a pool take turns in an order of
which nothing is known but that every file gets the two turns it needs. -/
inductive MayEnd (b : Batch) (fs : FileSystem) (files : List Location) :
    Option UInt64 → List Outcome → FileSystem → Prop
  | inOrder {workers : UInt64} :
      MayEnd b fs files (some workers) (b.annotateFiles fs files).1 (b.annotateFiles fs files).2
  | pool {workers : Option UInt64} {schedule : List Nat} (many : workers ≠ some 1)
      (turns : ∀ i < files.length, 2 ≤ schedule.count i) :
      MayEnd b fs files workers (b.turns (.start fs files) schedule).outcomes
        (b.turns (.start fs files) schedule).fileSystem

section InOrder

variable {b : Batch}

/-- The schedule that takes up the files one after the other, from the given number on. -/
def inOrder (first : Nat) : List Location → List Nat
  | [] => []
  | _ :: files => first :: first :: inOrder (first + 1) files

theorem two_le_count_inOrder (first : Nat) (files : List Location) {i : Nat} (hi : first ≤ i)
    (hlt : i < first + files.length) : 2 ≤ (inOrder first files).count i := by
  induction files generalizing first with
  | nil =>
      rw [List.length_nil] at hlt
      omega
  | cons file files ih =>
      rw [List.length_cons] at hlt
      by_cases hfirst : first = i
      · subst hfirst
        rw [inOrder, List.count_cons_self, List.count_cons_self]
        omega
      · rw [inOrder, List.count_cons_of_ne hfirst, List.count_cons_of_ne hfirst]
        exact ih (first + 1) (by omega) (by omega)

theorem turn_of_getElem? {w : Work} {i : Nat} {job : Job} (hi : w.jobs[i]? = some job) :
    b.turn w i =
      ⟨(b.advance w.fileSystem job).2, w.jobs.set i (b.advance w.fileSystem job).1⟩ := by
  simp only [turn, hi]

theorem turn_append (fs : FileSystem) (before : List Job) (job : Job) (after : List Job) :
    b.turn ⟨fs, before ++ job :: after⟩ before.length =
      ⟨(b.advance fs job).2, before ++ (b.advance fs job).1 :: after⟩ := by
  simp [turn]

/-- Working on files one after the other is one of the schedules. -/
theorem turns_inOrder (fs : FileSystem) (before : List Job) (files : List Location) :
    ∃ jobs, b.turns ⟨fs, before ++ files.map .waiting⟩ (inOrder before.length files) =
        ⟨(b.annotateFiles fs files).2, before ++ jobs⟩ ∧
      jobs.filterMap (fun job => job.progress.outcome?) = (b.annotateFiles fs files).1 := by
  induction files generalizing fs before with
  | nil => exact ⟨[], rfl, rfl⟩
  | cons file files ih =>
      let done : Job := { file, progress := .finished (b.annotateFile fs file).1 }
      obtain ⟨jobs, hjobs, houtcomes⟩ := ih (b.annotateFile fs file).2 (before ++ [done])
      refine ⟨done :: jobs, ?_, ?_⟩
      · have two : b.turn (b.turn ⟨fs, before ++ .waiting file :: files.map .waiting⟩
            before.length) before.length =
            ⟨(b.annotateFile fs file).2, before ++ done :: files.map .waiting⟩ := by
          rw [turn_append, turn_append]
          rfl
        simp only [List.length_append, List.length_singleton, List.append_assoc,
          List.singleton_append] at hjobs
        simpa only [turns, inOrder, List.map_cons, List.foldl_cons, two, annotateFiles] using hjobs
      · rw [List.filterMap_cons, houtcomes]
        rfl

end InOrder

/-- What is known of a file while a run from `fs₀` goes on, which by now has reached `fs`: until its
plan is carried out it holds what it held at the start, and its plan, its outcome and what it holds
in the end are those of working on it alone. -/
inductive Fits (b : Batch) (fs₀ fs : FileSystem) (file : Location) : Progress → Prop
  | waiting (kept : fs₀.KeptAt file fs) : Fits b fs₀ fs file .waiting
  | planned (kept : fs₀.KeptAt file fs) :
      Fits b fs₀ fs file (.planned (fs₀.plan b.template file))
  | finished (written : ∀ place, fs₀.locate file = .ok place →
        fs.tree.content? place = (b.annotateFile fs₀ file).2.tree.content? place) :
      Fits b fs₀ fs file (.finished (b.annotateFile fs₀ file).1)

section Steps

variable {b : Batch} {fs₀ fs : FileSystem} {file : Location}

theorem Fits.later {progress : Progress} (h : Fits b fs₀ fs file progress) {fs' : FileSystem}
    (same : ∀ place, fs₀.locate file = .ok place →
      fs'.tree.content? place = fs.tree.content? place) : Fits b fs₀ fs' file progress := by
  cases h with
  | waiting kept => exact .waiting fun place hp => (same place hp).trans (kept place hp)
  | planned kept => exact .planned fun place hp => (same place hp).trans (kept place hp)
  | finished written => exact .finished fun place hp => (same place hp).trans (written place hp)

/-- A file that has been left alone is worked on as if nothing else had happened. -/
theorem annotateFile_congr (exact : b.writer.Exact) (own : b.writer.Independent)
    (layout : fs₀.SameLayout fs) (kept : fs₀.KeptAt file fs) :
    (b.annotateFile fs file).1 = (b.annotateFile fs₀ file).1 ∧
      ∀ place, fs₀.locate file = .ok place →
        (b.annotateFile fs file).2.tree.content? place =
          (b.annotateFile fs₀ file).2.tree.content? place := by
  simp only [annotateFile, plan_congr layout kept]
  cases hp : fs₀.plan b.template file with
  | skip error => exact ⟨rfl, kept⟩
  | leave => exact ⟨rfl, kept⟩
  | insert a =>
      cases hm : b.mode with
      | dryRun =>
          rw [commit_dryRun hm, commit_dryRun hm]
          exact ⟨rfl, kept⟩
      | apply =>
          obtain ⟨place, hl, hc⟩ := plan_insert_located hp
          have verdict : (b.writer fs file a.lines).map (fun _ => ()) =
              (b.writer fs₀ file a.lines).map fun _ => () := own hl hc layout kept
          cases hw : b.writer fs file a.lines with
          | error cause =>
              cases hw₀ : b.writer fs₀ file a.lines with
              | error cause₀ =>
                  rw [hw, hw₀] at verdict
                  obtain rfl : cause = cause₀ := Except.error.inj verdict
                  rw [commit_refused hm hw, commit_refused hm hw₀]
                  exact ⟨rfl, kept⟩
              | ok fs₀' => simp [hw, hw₀, Except.map] at verdict
          | ok fs' =>
              cases hw₀ : b.writer fs₀ file a.lines with
              | error cause₀ => simp [hw, hw₀, Except.map] at verdict
              | ok fs₀' =>
                  have hl' : fs.locate file = .ok place :=
                    (FileSystem.locate_congr layout file).trans hl
                  have replaced := exact hl' (by rw [layout.files, hc]) hw
                  have replaced₀ := exact hl hc hw₀
                  rw [commit_written hm hw, commit_written hm hw₀]
                  refine ⟨rfl, fun q hq => ?_⟩
                  obtain rfl : q = place := Except.ok.inj (hq.symm.trans hl)
                  rw [replaced.files, replaced₀.files, if_pos rfl, if_pos rfl]

/-- A step for one file keeps what is known of it and touches no other. -/
theorem advance_fits (exact : b.writer.Exact) (own : b.writer.Independent)
    (layout : fs₀.SameLayout fs) {progress : Progress} (fits : Fits b fs₀ fs file progress) :
    Fits b fs₀ (b.advance fs ⟨file, progress⟩).2 file
        (b.advance fs ⟨file, progress⟩).1.progress ∧
      fs.Touched [file] (b.advance fs ⟨file, progress⟩).2 := by
  cases fits with
  | waiting kept =>
      simp only [advance, plan_congr layout kept]
      exact ⟨.planned kept, .refl fs _⟩
  | planned kept =>
      have alone : b.commit file (fs₀.plan b.template file) fs = b.annotateFile fs file := by
        rw [annotateFile, plan_congr layout kept]
      obtain ⟨houtcome, hcontent⟩ := annotateFile_congr exact own layout kept
      simp only [advance, alone, houtcome]
      exact ⟨.finished hcontent, (annotateFile_treated exact layout kept).2⟩
  | finished written => exact ⟨.finished written, .refl fs _⟩

theorem file_advance (fs : FileSystem) (job : Job) : (b.advance fs job).1.file = job.file := by
  simp only [advance]
  split <;> rfl

end Steps

/-- What is known of all files while a run goes on. -/
structure Keeps (b : Batch) (fs₀ : FileSystem) (files : List Location) (w : Work) : Prop where
  listed : w.jobs.map Job.file = files
  touched : fs₀.Touched files w.fileSystem
  fits : ∀ (i : Nat) (job : Job), w.jobs[i]? = some job →
    Fits b fs₀ w.fileSystem job.file job.progress

section Runs

variable {b : Batch} {fs₀ : FileSystem} {files : List Location}

theorem keeps_start (b : Batch) (fs₀ : FileSystem) (files : List Location) :
    Keeps b fs₀ files (.start fs₀ files) := by
  refine ⟨?_, .refl fs₀ files, ?_⟩
  · simp [Work.start, Function.comp_def, Job.waiting]
  · intro i job hj
    simp only [Work.start, List.getElem?_map, Option.map_eq_some_iff] at hj
    obtain ⟨file, _, rfl⟩ := hj
    exact .waiting fun _ _ => rfl

/-- A turn keeps what is known: the other files are found elsewhere. -/
theorem Keeps.turn (exact : b.writer.Exact) (own : b.writer.Independent)
    (apart : fs₀.Apart files) {w : Work} (h : Keeps b fs₀ files w) (i : Nat) :
    Keeps b fs₀ files (b.turn w i) := by
  cases hi : w.jobs[i]? with
  | none => simpa only [Batch.turn, hi] using h
  | some job =>
      obtain ⟨fits, touched⟩ := advance_fits exact own h.touched.layout (h.fits i job hi)
      have number : ∀ (j : Nat) (other : Job), w.jobs[j]? = some other →
          files[j]? = some other.file := by
        intro j other hj
        rw [← h.listed, List.getElem?_map, hj]
        rfl
      rw [turn_of_getElem? hi]
      refine ⟨?_, h.touched.step (List.mem_of_getElem? (number i job hi)) touched, ?_⟩
      · obtain ⟨_, hfile⟩ := List.getElem?_eq_some_iff.mp (number i job hi)
        rw [List.map_set, file_advance, h.listed, ← hfile, List.set_getElem_self]
      · intro j other hj
        by_cases hji : i = j
        · subst hji
          obtain ⟨hlt, _⟩ := List.getElem?_eq_some_iff.mp hi
          obtain rfl : (b.advance w.fileSystem job).1 = other := by
            simpa [List.getElem?_set_self hlt] using hj
          rw [file_advance]
          exact fits
        · rw [List.getElem?_set_ne hji] at hj
          refine (h.fits j other hj).later fun place hp => touched.elsewhere place ?_
          intro file hfile hl
          obtain rfl := List.mem_singleton.mp hfile
          rw [FileSystem.locate_congr h.touched.layout] at hl
          exact apart.locate_ne hji (number i job hi) (number j other hj) hl hp

theorem Keeps.turns (exact : b.writer.Exact) (own : b.writer.Independent)
    (apart : fs₀.Apart files) {w : Work} (h : Keeps b fs₀ files w) (schedule : List Nat) :
    Keeps b fs₀ files (b.turns w schedule) := by
  induction schedule generalizing w with
  | nil => exact h
  | cons i schedule ih => exact ih (h.turn exact own apart i)

theorem steps_advance (fs : FileSystem) (job : Job) :
    (b.advance fs job).1.progress.steps = min 2 (job.progress.steps + 1) := by
  simp only [advance]
  cases hp : job.progress <;> simp [Progress.steps, hp]

theorem stepsAt_turn (w : Work) (k i : Nat) :
    (b.turn w k).stepsAt i =
      if k = i then (w.stepsAt i).map fun n => min 2 (n + 1) else w.stepsAt i := by
  cases hk : w.jobs[k]? with
  | none =>
      have hw : b.turn w k = w := by simp only [Batch.turn, hk]
      rw [hw]
      split
      · rename_i hki
        simp [Work.stepsAt, ← hki, hk]
      · rfl
  | some job =>
      obtain ⟨hlt, _⟩ := List.getElem?_eq_some_iff.mp hk
      simp only [turn_of_getElem? hk, Work.stepsAt]
      by_cases hki : k = i
      · simp [← hki, List.getElem?_set_self hlt, hk, steps_advance]
      · rw [List.getElem?_set_ne hki, if_neg hki]

/-- Every turn of a file is a step for it, up to the two that it needs. -/
theorem stepsAt_turns {w : Work} {i n : Nat} (h : w.stepsAt i = some n) (hn : n ≤ 2)
    (schedule : List Nat) :
    (b.turns w schedule).stepsAt i = some (min 2 (n + schedule.count i)) := by
  induction schedule generalizing w n with
  | nil =>
      rw [List.count_nil, Nat.add_zero, Nat.min_eq_right hn]
      exact h
  | cons k schedule ih =>
      by_cases hki : k = i
      · subst hki
        have next : (b.turn w k).stepsAt k = some (min 2 (n + 1)) := by
          rw [stepsAt_turn, if_pos rfl, h, Option.map_some]
        rw [turns, List.foldl_cons]
        refine (ih next (by omega)).trans ?_
        rw [List.count_cons_self]
        congr 1
        omega
      · have next : (b.turn w k).stepsAt i = some n := by
          rw [stepsAt_turn, if_neg hki, h]
        rw [turns, List.foldl_cons]
        refine (ih next hn).trans ?_
        rw [List.count_cons_of_ne hki]

/-- Two turns finish a file. -/
theorem Keeps.finished {schedule : List Nat}
    (h : Keeps b fs₀ files (b.turns (.start fs₀ files) schedule))
    (fair : ∀ i < files.length, 2 ≤ schedule.count i) :
    ∀ job ∈ (b.turns (.start fs₀ files) schedule).jobs, job.progress.steps = 2 := by
  intro job hjob
  obtain ⟨i, hi⟩ := List.mem_iff_getElem?.mp hjob
  have hlt : i < files.length := by
    rw [← h.listed, List.length_map]
    exact (List.getElem?_eq_some_iff.mp hi).1
  have first : (Work.start fs₀ files).stepsAt i = some 0 := by
    simp [Work.stepsAt, Work.start, hlt, Job.waiting, Progress.steps]
  have last := stepsAt_turns (b := b) first (Nat.zero_le 2) schedule
  simp only [Work.stepsAt, hi, Option.map_some, Option.some.injEq] at last
  have := fair i hlt
  omega

/-- A file that is finished has the outcome of working on it alone. -/
theorem Fits.outcome?_eq {fs : FileSystem} {file : Location} {progress : Progress}
    (h : Fits b fs₀ fs file progress) (done : progress.steps = 2) :
    progress.outcome? = some (b.annotateFile fs₀ file).1 ∧
      ∀ place, fs₀.locate file = .ok place →
        fs.tree.content? place = (b.annotateFile fs₀ file).2.tree.content? place := by
  cases h with
  | waiting | planned => simp [Progress.steps] at done
  | finished written => exact ⟨rfl, written⟩

variable {w : Work}

theorem Keeps.outcomes_eq (h : Keeps b fs₀ files w)
    (done : ∀ job ∈ w.jobs, job.progress.steps = 2) :
    w.outcomes = files.map fun file => (b.annotateFile fs₀ file).1 := by
  have each : ∀ job ∈ w.jobs, job.progress.outcome? = some (b.annotateFile fs₀ job.file).1 := by
    intro job hjob
    obtain ⟨i, hi⟩ := List.mem_iff_getElem?.mp hjob
    exact ((h.fits i job hi).outcome?_eq (done job hjob)).1
  rw [Work.outcomes, List.filterMap_congr each, ← h.listed, List.map_map]
  exact congrFun List.filterMap_eq_map w.jobs

theorem Keeps.content?_eq (h : Keeps b fs₀ files w)
    (done : ∀ job ∈ w.jobs, job.progress.steps = 2) {file : Location} (hfile : file ∈ files)
    {place : List String} (hl : fs₀.locate file = .ok place) :
    w.fileSystem.tree.content? place = (b.annotateFile fs₀ file).2.tree.content? place := by
  rw [← h.listed] at hfile
  obtain ⟨job, hjob, rfl⟩ := List.mem_map.mp hfile
  obtain ⟨i, hi⟩ := List.mem_iff_getElem?.mp hjob
  exact ((h.fits i job hi).outcome?_eq (done job hjob)).2 place hl

/-- Once all files are finished, what they hold does not depend on the order of the steps. -/
theorem Keeps.sameFiles {w' : Work} (h : Keeps b fs₀ files w) (h' : Keeps b fs₀ files w')
    (done : ∀ job ∈ w.jobs, job.progress.steps = 2)
    (done' : ∀ job ∈ w'.jobs, job.progress.steps = 2) :
    w.fileSystem.SameFiles w'.fileSystem := by
  refine ⟨h'.touched.layout.working.trans h.touched.layout.working.symm,
    fun q => (h'.touched.layout.folders q).trans (h.touched.layout.folders q).symm, fun q => ?_⟩
  by_cases hq : ∃ file ∈ files, fs₀.locate file = .ok q
  · obtain ⟨file, hfile, hl⟩ := hq
    rw [h'.content?_eq done' hfile hl, h.content?_eq done hfile hl]
  · have nowhere : ∀ file ∈ files, fs₀.locate file ≠ .ok q :=
      fun file hfile hl => hq ⟨file, hfile, hl⟩
    rw [h'.touched.elsewhere q nowhere, h.touched.elsewhere q nowhere]

end Runs

/-- In whatever order the steps for the files are taken, the outcomes and the files in the end are
those of working on one file after the other. So every number of workers leaves the same. -/
theorem annotateFiles_any_order (b : Batch) (exact : b.writer.Exact)
    (own : b.writer.Independent) {fs : FileSystem} {files : List Location}
    (apart : fs.Apart files) :
    (∀ schedule : List Nat, (∀ i < files.length, 2 ≤ schedule.count i) →
      (b.turns (.start fs files) schedule).outcomes = (b.annotateFiles fs files).1 ∧
        (b.annotateFiles fs files).2.SameFiles (b.turns (.start fs files) schedule).fileSystem) ∧
    ∀ workers : Option UInt64,
      (∃ outcomes fs', b.MayEnd fs files workers outcomes fs') ∧
        ∀ outcomes fs', b.MayEnd fs files workers outcomes fs' →
          outcomes = (b.annotateFiles fs files).1 ∧ (b.annotateFiles fs files).2.SameFiles fs' := by
  have keeps : ∀ schedule, Keeps b fs files (b.turns (.start fs files) schedule) :=
    fun schedule => (keeps_start b fs files).turns exact own apart schedule
  have fair : ∀ i < files.length, 2 ≤ (inOrder 0 files).count i :=
    fun i hi => two_le_count_inOrder 0 files (Nat.zero_le i) (by omega)
  obtain ⟨jobs, hjobs, houtcomes⟩ := turns_inOrder (b := b) fs [] files
  have anyOrder : ∀ schedule : List Nat, (∀ i < files.length, 2 ≤ schedule.count i) →
      (b.turns (.start fs files) schedule).outcomes = (b.annotateFiles fs files).1 ∧
        (b.annotateFiles fs files).2.SameFiles (b.turns (.start fs files) schedule).fileSystem := by
    intro schedule turns
    have done := (keeps schedule).finished turns
    have done₀ := (keeps (inOrder 0 files)).finished fair
    have outcomes := ((keeps schedule).outcomes_eq done).trans
      ((keeps (inOrder 0 files)).outcomes_eq done₀).symm
    have same := (keeps (inOrder 0 files)).sameFiles (keeps schedule) done₀ done
    -- The schedule that takes up the files in order stands for working on them one by one.
    rw [show b.turns (.start fs files) (inOrder 0 files) = _ from hjobs] at outcomes same
    exact ⟨outcomes.trans houtcomes, same⟩
  refine ⟨anyOrder, fun workers => ⟨?_, ?_⟩⟩
  · cases workers with
    | some n => exact ⟨_, _, .inOrder⟩
    | none => exact ⟨_, _, .pool (by simp) fair⟩
  · intro outcomes fs' ended
    cases ended with
    | inOrder => exact ⟨rfl, .refl _⟩
    | pool _ turns => exact anyOrder _ turns

theorem annotateFiles_any_order_sample :
    Writer.Exact FileSystem.writeLines ∧ Writer.Independent FileSystem.writeLines ∧
      FileSystem.sample.Apart [⟨".", ["a.js"]⟩, ⟨".", ["b.js"]⟩] ∧
      (({} : Batch).turns (.start .sample [⟨".", ["a.js"]⟩, ⟨".", ["b.js"]⟩])
          [1, 0, 0, 1]).outcomes =
        (({} : Batch).annotateFiles .sample [⟨".", ["a.js"]⟩, ⟨".", ["b.js"]⟩]).1 := by
  have apart := FileSystem.candidates_apart FileSystem.candidates_sample
  refine ⟨Writer.writeLines_exact, Writer.writeLines_independent, apart, ?_⟩
  exact ((annotateFiles_any_order {} Writer.writeLines_exact Writer.writeLines_independent
    apart).1 [1, 0, 0, 1] (by decide)).1

end Batch
end HeaderNotes

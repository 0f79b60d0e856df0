import HeaderNotes.Files.FileSystem
import HeaderNotes.Proofs.Files.Places

/-!
Following locations. Where a location leads depends on the names in the tree and on which of them
are directories, not on the content of any file. Different names below one starting point lead to
different places, and a file that can be read is written where it was read.
-/

namespace HeaderNotes.FileSystem

/-- The same directories and the same files, whatever the files hold. -/
structure SameLayout (fs fs' : FileSystem) : Prop where
  working : fs'.working = fs.working
  folders : ∀ q, fs'.tree.isFolder q = fs.tree.isFolder q
  files : ∀ q, (fs'.tree.content? q).isSome = (fs.tree.content? q).isSome

theorem SameLayout.refl (fs : FileSystem) : SameLayout fs fs :=
  ⟨rfl, fun _ => rfl, fun _ => rfl⟩

theorem SameLayout.trans {fs₁ fs₂ fs₃ : FileSystem} (h : SameLayout fs₁ fs₂)
    (h' : SameLayout fs₂ fs₃) : SameLayout fs₁ fs₃ :=
  ⟨h'.working.trans h.working, fun q => (h'.folders q).trans (h.folders q),
    fun q => (h'.files q).trans (h.files q)⟩

theorem bind_eq_ok {ε α β : Type} {x : Except ε α} {f : α → Except ε β} {b : β} :
    x >>= f = .ok b ↔ ∃ a, x = .ok a ∧ f a = .ok b := by
  cases x with
  | error e => simp [Bind.bind, Except.bind]
  | ok a => simp [Bind.bind, Except.bind]

section Steps

variable (fs : FileSystem)

/-- Whether a directory is found at a place, in terms of what the place holds. -/
theorem folderAt_map {α : Type} (place : List String) (a : α) :
    (fs.folderAt place).map (fun _ => a) =
      if fs.tree.isFolder place then .ok a
      else if (fs.tree.content? place).isSome then .error .notDirectory
      else .error .notFound := by
  cases hp : fs.tree.get? place with
  | none => simp [folderAt, Directory.isFolder, Directory.content?, hp, Except.map]
  | some entry =>
      cases entry <;>
        simp [folderAt, Directory.isFolder, Directory.content?, hp, Except.map]

theorem enter_eq (place : List String) (name : String) :
    fs.enter place name =
      if fs.tree.isFolder place then
        if maxNameSize < name.utf8ByteSize then .error .nameTooLong
        else if fs.tree.isFolder (place ++ [name]) || (fs.tree.content? (place ++ [name])).isSome
        then .ok (place ++ [name])
        else .error .notFound
      else if (fs.tree.content? place).isSome then .error .notDirectory
      else .error .notFound := by
  rw [← Directory.isSome_get?]
  cases hp : fs.tree.get? place with
  | none =>
      simp [enter, lookup, folderAt, Directory.isFolder, Directory.content?, hp, bind, Except.bind]
  | some entry =>
      cases entry with
      | file content =>
          simp [enter, lookup, folderAt, Directory.isFolder, Directory.content?, hp, bind,
            Except.bind]
      | folder inner =>
          have hname : fs.tree.get? (place ++ [name]) = inner.find? name := by
            rw [Directory.get?_append, hp, ← Directory.get?_singleton]
          rw [hname, Directory.isFolder_iff.mpr ⟨inner, hp⟩]
          by_cases hn : maxNameSize < name.utf8ByteSize
          · simp [enter, lookup, folderAt, hp, hn, bind, Except.bind]
          · cases hf : inner.find? name <;>
              simp [enter, lookup, folderAt, hp, hn, hf, bind, Except.bind]

theorem enter_eq_ok_iff {place : List String} {name : String} {found : List String} :
    fs.enter place name = .ok found ↔
      fs.tree.isFolder place ∧ ¬ maxNameSize < name.utf8ByteSize ∧
        (fs.tree.get? (place ++ [name])).isSome ∧ found = place ++ [name] := by
  rw [enter_eq, ← Directory.isSome_get?]
  grind

theorem step_eq (place : List String) (part : String) :
    fs.step place part =
      if part = "" ∨ part = "." then
        if fs.tree.isFolder place then .ok place
        else if (fs.tree.content? place).isSome then .error .notDirectory
        else .error .notFound
      else if part = ".." then
        if fs.tree.isFolder place then .ok place.dropLast
        else if (fs.tree.content? place).isSome then .error .notDirectory
        else .error .notFound
      else fs.enter place part := by
  simp only [step, folderAt_map]

end Steps

section Layout

variable {fs fs' : FileSystem} (h : SameLayout fs fs')

include h

theorem enter_congr : fs'.enter = fs.enter := by
  funext place name
  simp only [enter_eq, h.folders, h.files]

theorem step_congr : fs'.step = fs.step := by
  funext place part
  simp only [step_eq, h.folders, h.files, enter_congr h]

theorem start_congr (l : Location) : fs'.start l = fs.start l := by
  simp only [start, h.working]

/-- Where a location leads does not depend on the content of files. -/
theorem locate_congr (l : Location) : fs'.locate l = fs.locate l := by
  simp only [locate, enter_congr h, step_congr h, start_congr h]

end Layout

section Locate

variable {fs : FileSystem}

theorem locate_eq_ok_iff {l : Location} {place : List String} :
    fs.locate l = .ok place ↔ pathError? l.text = none ∧
      ∃ base, l.rootParts.foldlM fs.step (fs.start l) = .ok base ∧
        l.below.foldlM fs.enter base = .ok place := by
  cases he : pathError? l.text with
  | some e => simp [locate, he]
  | none => simp only [locate, he, bind_eq_ok, true_and]

theorem foldlM_enter {names base place : List String}
    (h : names.foldlM fs.enter base = .ok place) : place = base ++ names := by
  induction names generalizing base with
  | nil =>
      obtain rfl : base = place := by simpa [pure, Except.pure] using h
      simp
  | cons name names ih =>
      rw [List.foldlM_cons, bind_eq_ok] at h
      obtain ⟨next, hn, h⟩ := h
      obtain ⟨_, _, _, rfl⟩ := (enter_eq_ok_iff fs).mp hn
      simpa using ih h

/-- Different names below one starting point lead to different places. -/
theorem locate_below_inj {root : String} {below₁ below₂ place : List String}
    (h₁ : fs.locate ⟨root, below₁⟩ = .ok place) (h₂ : fs.locate ⟨root, below₂⟩ = .ok place) :
    below₁ = below₂ := by
  obtain ⟨_, base₁, hb₁, he₁⟩ := locate_eq_ok_iff.mp h₁
  obtain ⟨_, base₂, hb₂, he₂⟩ := locate_eq_ok_iff.mp h₂
  -- Both are followed from the place of the starting point, which is the same for both.
  obtain rfl : base₁ = base₂ := Except.ok.inj (hb₁.symm.trans hb₂)
  have h := (foldlM_enter he₁).symm.trans (foldlM_enter he₂)
  exact List.append_cancel_left h

theorem read_eq (l : Location) :
    fs.read l = (fs.locate l).bind fun place =>
      match fs.tree.content? place with
      | some content => .ok content
      | none => if fs.tree.isFolder place then .error .isDirectory else .error .notFound := by
  simp only [read]
  cases fs.locate l with
  | error e => rfl
  | ok place =>
      cases hp : fs.tree.get? place with
      | none => simp [Directory.content?, Directory.isFolder, hp, bind, Except.bind]
      | some entry =>
          cases entry <;> simp [Directory.content?, Directory.isFolder, hp, bind, Except.bind]

theorem read_eq_ok_iff {l : Location} {content : ByteArray} :
    fs.read l = .ok content ↔
      ∃ place, fs.locate l = .ok place ∧ fs.tree.content? place = some content := by
  rw [read_eq]
  cases fs.locate l with
  | error e => simp [Except.bind]
  | ok place =>
      simp only [Except.bind, Except.ok.injEq, exists_eq_left']
      cases fs.tree.content? place with
      | some found => simp
      | none => cases fs.tree.isFolder place <;> simp

theorem fromUTF8?_eq_some_iff {bytes : ByteArray} {text : String} :
    String.fromUTF8? bytes = some text ↔ bytes = text.toUTF8 := by
  simp only [String.fromUTF8?]
  constructor
  · intro h
    split at h
    · rw [← Option.some.inj h]
      rfl
    · simp at h
  · rintro rfl
    exact dif_pos text.isValidUTF8

theorem readLines_eq_ok_iff {l : Location} {lines : List String} :
    fs.readLines l = .ok lines ↔
      ∃ place text, fs.locate l = .ok place ∧
        fs.tree.content? place = some text.toUTF8 ∧ lines = Text.lines text := by
  constructor
  · intro h
    simp only [readLines] at h
    split at h
    · rename_i content hr
      obtain ⟨place, hl, hc⟩ := read_eq_ok_iff.mp hr
      split at h
      · rename_i text ht
        rw [fromUTF8?_eq_some_iff.mp ht] at hc
        exact ⟨place, text, hl, hc, (Except.ok.inj h).symm⟩
      · simp at h
    · simp at h
  · rintro ⟨place, text, hl, hc, rfl⟩
    have hr := read_eq_ok_iff.mpr ⟨place, hl, hc⟩
    simp only [readLines, hr, fromUTF8?_eq_some_iff.mpr rfl]

end Locate

/-- A file reads the same if it is found at the same place and the place has the same content. -/
theorem readLines_congr {fs fs' : FileSystem} (h : SameLayout fs fs') {l : Location}
    (hc : ∀ place, fs.locate l = .ok place → fs'.tree.content? place = fs.tree.content? place) :
    fs'.readLines l = fs.readLines l := by
  have hr : fs'.read l = fs.read l := by
    rw [read_eq, read_eq, locate_congr h]
    cases hl : fs.locate l with
    | error e => rfl
    | ok place => simp only [Except.bind, hc place hl, h.folders]
  simp only [readLines, hr]

section Destination

variable {fs : FileSystem}

theorem fileIn_eq_ok {parent : List String} {name : String} (hp : fs.tree.isFolder parent)
    (hn : ¬ maxNameSize < name.utf8ByteSize)
    (hc : (fs.tree.content? (parent ++ [name])).isSome) :
    fs.fileIn parent name = .ok (parent ++ [name]) := by
  obtain ⟨inner, hi⟩ := Directory.isFolder_iff.mp hp
  obtain ⟨content, hc⟩ := Option.isSome_iff_exists.mp hc
  have hf : inner.find? name = some (.file content) := by
    rw [← Directory.get?_singleton, ← Directory.content?_eq_some_iff.mp hc,
      Directory.get?_append, hi]
  simp [fileIn, lookup, folderAt, hi, hn, hf, bind, Except.bind]

/-- A step to a file goes to a name in a directory. -/
theorem step_eq_ok_of_content {mid place : List String} {part : String}
    (h : fs.step mid part = .ok place) (hc : (fs.tree.content? place).isSome) :
    part ≠ "" ∧ part ≠ "." ∧ part ≠ ".." ∧ fs.enter mid part = .ok place := by
  have notFolder : ¬ fs.tree.isFolder place := by
    intro hf
    obtain ⟨inner, hi⟩ := Directory.isFolder_iff.mp hf
    simp [Directory.content?, hi] at hc
  rw [step_eq] at h
  split at h
  · have hf : fs.tree.isFolder mid := by grind
    grind
  · split at h
    · have hf : fs.tree.isFolder mid := by grind
      have := Directory.isFolder_dropLast hf
      grind
    · exact ⟨by grind, by grind, by grind, h⟩

theorem rootParts_ne_nil (l : Location) : l.rootParts ≠ [] := by
  have h : ∀ cs, Location.cutSlashes cs ≠ [] := by
    intro cs
    induction cs with
    | nil => simp [Location.cutSlashes]
    | cons c cs ih =>
        simp only [Location.cutSlashes]
        split
        · simp
        · split <;> simp
  simpa [Location.rootParts] using h l.root.toList

/-- A path that ends in a name is written under this name, where what comes before leads to. -/
theorem rootDestination_eq_fileIn {start front parent : List String} {name : String}
    (plain : name ≠ "" ∧ name ≠ "." ∧ name ≠ "..")
    (h : front.foldlM fs.step start = .ok parent) :
    fs.rootDestination start (front ++ [name]) = fs.fileIn parent name := by
  obtain ⟨hempty, hdot, hdots⟩ := plain
  have hnamed : ((front ++ [name]).reverse.dropWhile (· == "")).reverse = front ++ [name] := by
    simp [hempty]
  simp only [rootDestination, hnamed, List.getLast?_append, List.getLast?_singleton,
    Option.some_or, List.dropLast_concat, h, Nat.lt_irrefl, hdot, hdots, or_self, if_false]
  rfl

theorem rootDestination_eq_ok {start : List String} {parts place : List String}
    (hne : parts ≠ []) (h : parts.foldlM fs.step start = .ok place)
    (hc : (fs.tree.content? place).isSome) : fs.rootDestination start parts = .ok place := by
  obtain ⟨front, last, rfl⟩ : ∃ front last, parts = front ++ [last] :=
    ⟨_, _, (List.dropLast_concat_getLast hne).symm⟩
  rw [List.foldlM_append, bind_eq_ok] at h
  obtain ⟨mid, hmid, hlast⟩ := h
  have hstep : fs.step mid last = .ok place := by simpa using hlast
  obtain ⟨hempty, hdot, hdots, henter⟩ := step_eq_ok_of_content hstep hc
  obtain ⟨hfolder, hsize, _, rfl⟩ := (enter_eq_ok_iff fs).mp henter
  rw [rootDestination_eq_fileIn ⟨hempty, hdot, hdots⟩ hmid]
  exact fileIn_eq_ok hfolder hsize hc

/-- A file is written where it is read. -/
theorem destination_eq_ok {l : Location} {place : List String} (h : fs.locate l = .ok place)
    (hc : (fs.tree.content? place).isSome) : fs.destination l = .ok place := by
  obtain ⟨hpath, base, hbase, hbelow⟩ := locate_eq_ok_iff.mp h
  rcases List.eq_nil_or_concat l.below with hnil | ⟨front, last, hlast⟩
  · rw [hnil] at hbelow
    obtain rfl : base = place := by simpa [pure, Except.pure] using hbelow
    simp only [destination, hpath, hnil, List.getLast?_nil]
    exact rootDestination_eq_ok (rootParts_ne_nil l) hbase hc
  · rw [List.concat_eq_append] at hlast
    rw [hlast, List.foldlM_append, bind_eq_ok] at hbelow
    obtain ⟨mid, hmid, hlast'⟩ := hbelow
    have henter : fs.enter mid last = .ok place := by simpa using hlast'
    obtain ⟨hfolder, hsize, _, rfl⟩ := (enter_eq_ok_iff fs).mp henter
    simp only [destination, hpath, hlast, List.getLast?_append, List.getLast?_singleton,
      Option.some_or, List.dropLast_concat, hbase]
    refine bind_eq_ok.mpr ⟨base, rfl, bind_eq_ok.mpr ⟨mid, hmid, ?_⟩⟩
    exact fileIn_eq_ok hfolder hsize hc

end Destination

end HeaderNotes.FileSystem

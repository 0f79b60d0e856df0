import Mathlib.Data.List.Basic
import HeaderNotes.Proofs.Files.Locating

/-!
Writing a file. A file that is written, whether it was there before or not, is found afterwards at
the place where it was written and read as it was written; writing the same once more changes
nothing.
-/

namespace HeaderNotes

namespace Directory

variable {d : Directory}

theorem isFolder_cons (d : Directory) (name : String) (names : List String) :
    d.isFolder (name :: names) =
      match d.find? name with
      | some (.folder inner) => inner.isFolder names
      | _ => false := by
  simp only [isFolder, get?]
  cases d.find? name with
  | none => rfl
  | some entry => cases entry <;> cases names <;> rfl

theorem exists_find?_of_isFolder {name : String} {names : List String}
    (h : d.isFolder (name :: names)) :
    ∃ inner, d.find? name = some (.folder inner) ∧ inner.isFolder names := by
  rw [isFolder_cons] at h
  cases hf : d.find? name with
  | none => simp [hf] at h
  | some entry =>
      cases entry with
      | file content => simp [hf] at h
      | folder inner => exact ⟨inner, rfl, by simpa [hf] using h⟩

theorem find?_ne_folder {name : String} (h : d.isFolder [name] = false) (inner : Directory) :
    d.find? name ≠ some (.folder inner) := by
  intro hf
  rw [isFolder_cons, hf] at h
  exact Bool.noConfusion h

theorem insert_cons_append (entry : Entry) (name next : String) (names : List String) :
    d.insert entry (name :: (names ++ [next])) =
      d.put name (.folder (insert entry (names ++ [next]) (d.subdirectory name))) := by
  cases names <;> rfl

/-- A file that is put into a directory, under a name that no directory has, is all that changes:
the directories and the other files stay as they are. -/
theorem insert_append {parent : List String} {name : String} (hp : d.isFolder parent)
    (hn : d.isFolder (parent ++ [name]) = false) (new : ByteArray) (q : List String) :
    (d.insert (.file new) (parent ++ [name])).isFolder q = d.isFolder q ∧
      (d.insert (.file new) (parent ++ [name])).content? q =
        if q = parent ++ [name] then some new else d.content? q := by
  induction parent generalizing d q with
  | nil =>
      cases q with
      | nil => simp [isFolder, get?]
      | cons n ns =>
          simp only [List.nil_append, insert, isFolder_cons, content?_cons, find?_put]
          by_cases h : name = n
          · subst h
            -- What had the name so far, if anything, was a file.
            cases hf : d.find? name with
            | none => by_cases hns : ns = [] <;> simp [hns]
            | some entry =>
                cases entry with
                | file content => by_cases hns : ns = [] <;> simp [hns]
                | folder inner => exact absurd hf (find?_ne_folder hn inner)
          · simp [h, Ne.symm h]
  | cons first parent ih =>
      obtain ⟨inner, hf, hin⟩ := exists_find?_of_isFolder hp
      have hnot : inner.isFolder (parent ++ [name]) = false := by
        simpa [isFolder_cons, hf] using hn
      cases q with
      | nil => simp [isFolder, get?]
      | cons n ns =>
          simp only [List.cons_append, insert_cons_append, isFolder_cons, content?_cons, find?_put,
            subdirectory_of_find? hf]
          by_cases h : first = n
          · subst h
            simp [hf, ih hin hnot]
          · simp [h, Ne.symm h]

/-- Putting at the place of a file what it holds changes nothing. -/
theorem insert_of_content? {place : List String} {content : ByteArray}
    (h : d.content? place = some content) : d.insert (.file content) place = d := by
  induction place generalizing d with
  | nil => simp at h
  | cons name names ih =>
      cases names with
      | nil =>
          obtain ⟨old, hf⟩ := find?_of_content?_singleton (Option.isSome_of_eq_some h)
          obtain rfl : old = content := by simpa [content?_cons, hf] using h
          exact put_of_find? hf
      | cons next names =>
          obtain ⟨inner, hf, -⟩ := find?_of_content?_cons (Option.isSome_of_eq_some h)
          rw [insert_cons_cons, subdirectory_of_find? hf, ih (by simpa [content?_cons, hf] using h)]
          exact put_of_find? hf

end Directory

namespace FileSystem

/-- Directories and files may have been added, but none taken away. -/
structure Grows (fs fs' : FileSystem) : Prop where
  working : fs'.working = fs.working
  folders : ∀ q, fs.tree.isFolder q → fs'.tree.isFolder q
  entries : ∀ q, (fs.tree.get? q).isSome → (fs'.tree.get? q).isSome

section Grows

variable {fs fs' : FileSystem} (grows : Grows fs fs')

include grows

theorem Grows.enter {place found : List String} {name : String}
    (h : fs.enter place name = .ok found) : fs'.enter place name = .ok found := by
  rw [enter_eq_ok_iff] at h ⊢
  exact ⟨grows.folders _ h.1, h.2.1, grows.entries _ h.2.2.1, h.2.2.2⟩

theorem Grows.step {place found : List String} {part : String}
    (h : fs.step place part = .ok found) : fs'.step place part = .ok found := by
  have hfolder := grows.folders place
  rw [step_eq] at h ⊢
  by_cases stay : part = "" ∨ part = "."
  · simp only [stay, if_true] at h ⊢
    grind
  · simp only [stay, if_false] at h ⊢
    by_cases up : part = ".."
    · simp only [up, if_true] at h ⊢
      grind
    · simp only [up, if_false] at h ⊢
      exact grows.enter h

end Grows

theorem foldlM_mono {α β ε : Type} {f g : β → α → Except ε β}
    (h : ∀ b a c, f b a = .ok c → g b a = .ok c) {as : List α} {b c : β}
    (hf : as.foldlM f b = .ok c) : as.foldlM g b = .ok c := by
  induction as generalizing b with
  | nil => exact hf
  | cons a as ih =>
      rw [List.foldlM_cons, bind_eq_ok] at hf ⊢
      obtain ⟨next, hn, hf⟩ := hf
      exact ⟨next, h _ _ _ hn, ih hf⟩

section Destination

variable {fs : FileSystem}

theorem fileIn_eq_ok_iff {parent place : List String} {name : String} :
    fs.fileIn parent name = .ok place ↔
      fs.tree.isFolder parent ∧ ¬ maxNameSize < name.utf8ByteSize ∧
        fs.tree.isFolder (parent ++ [name]) = false ∧ place = parent ++ [name] := by
  cases hp : fs.tree.get? parent with
  | none => simp [fileIn, lookup, folderAt, Directory.isFolder, hp, bind, Except.bind]
  | some entry =>
      cases entry with
      | file content => simp [fileIn, lookup, folderAt, Directory.isFolder, hp, bind, Except.bind]
      | folder inner =>
          have hname : fs.tree.get? (parent ++ [name]) = inner.find? name := by
            rw [Directory.get?_append, hp, ← Directory.get?_singleton]
          by_cases hn : maxNameSize < name.utf8ByteSize
          · simp [fileIn, lookup, folderAt, hp, hn, bind, Except.bind]
          · rcases hf : inner.find? name with - | (content | below) <;>
              simp [fileIn, lookup, folderAt, Directory.isFolder, hp, hn, hname, hf, bind,
                Except.bind, eq_comm]

/-- A path that can be written ends in a name, and what comes before leads to a directory. -/
theorem rootDestination_cases {start parts place : List String}
    (h : fs.rootDestination start parts = .ok place) :
    ∃ front name parent, parts = front ++ [name] ∧ (name ≠ "" ∧ name ≠ "." ∧ name ≠ "..") ∧
      front.foldlM fs.step start = .ok parent ∧ fs.fileIn parent name = .ok place := by
  simp only [rootDestination] at h
  split at h
  · simp at h
  · rename_i name hlast
    obtain ⟨parent, hparent, h⟩ := bind_eq_ok.mp h
    split at h
    · cases hf : fs.folderAt parent <;> simp [hf, Except.bind] at h
    · rename_i hplain
      simp only [not_or, Nat.not_lt, List.length_reverse] at hplain
      obtain ⟨hlength, hdot, hdots⟩ := hplain
      -- Nothing is dropped, so the path does not end with a slash.
      have hall : parts.reverse.dropWhile (· == "") = parts.reverse :=
        (List.dropWhile_suffix _).eq_of_length_le (by simpa using hlength)
      rw [hall, List.reverse_reverse] at hlast hparent
      have hempty : name ≠ "" := by
        have hhead := List.head?_dropWhile_not (· == "") parts.reverse
        rw [hall, List.head?_reverse, hlast] at hhead
        simpa using hhead
      exact ⟨parts.dropLast, name, parent, (List.dropLast_append_getLast? name hlast).symm,
        ⟨hempty, hdot, hdots⟩, hparent, h⟩

/-- A location leads to a directory and a name in it, under which it can be written. -/
inductive Way (fs : FileSystem) (l : Location) (parent : List String) (name : String) : Prop
  | root {front : List String} (below : l.below = []) (parts : l.rootParts = front ++ [name])
      (plain : name ≠ "" ∧ name ≠ "." ∧ name ≠ "..")
      (way : front.foldlM fs.step (fs.start l) = .ok parent)
  | below {front base : List String} (below : l.below = front ++ [name])
      (root : l.rootParts.foldlM fs.step (fs.start l) = .ok base)
      (way : front.foldlM fs.enter base = .ok parent)

/-- How the place is found at which a location is written. -/
theorem destination_eq_ok_iff {l : Location} {place : List String} :
    fs.destination l = .ok place ↔ pathError? l.text = none ∧
      ∃ parent name, Way fs l parent name ∧ fs.fileIn parent name = .ok place := by
  cases hpath : pathError? l.text with
  | some e => simp [destination, hpath]
  | none =>
      simp only [destination, hpath, true_and]
      constructor
      · intro h
        split at h
        · rename_i hlast
          obtain ⟨front, name, parent, hparts, plain, hway, hfile⟩ := rootDestination_cases h
          exact ⟨parent, name, .root (List.getLast?_eq_none_iff.mp hlast) hparts plain hway, hfile⟩
        · rename_i name hlast
          obtain ⟨base, hbase, h⟩ := bind_eq_ok.mp h
          obtain ⟨parent, hparent, hfile⟩ := bind_eq_ok.mp h
          have hbelow := (List.dropLast_append_getLast? name hlast).symm
          exact ⟨parent, name, .below hbelow hbase hparent, hfile⟩
      · rintro ⟨parent, name, way, hfile⟩
        cases way with
        | root hbelow hparts plain hway =>
            simp only [hbelow, List.getLast?_nil, hparts]
            exact (rootDestination_eq_fileIn plain hway).trans hfile
        | below hbelow hroot hway =>
            simp only [hbelow, List.getLast?_append, List.getLast?_singleton, Option.some_or,
              List.dropLast_concat, hroot]
            exact bind_eq_ok.mpr ⟨_, rfl, bind_eq_ok.mpr ⟨_, hway, hfile⟩⟩

/-- A file that has been written is found where it was written. -/
theorem locate_of_destination {fs' : FileSystem} {l : Location} {place : List String}
    (h : fs.destination l = .ok place) (grows : Grows fs fs')
    (there : (fs'.tree.content? place).isSome) : fs'.locate l = .ok place := by
  obtain ⟨hpath, parent, name, way, hfile⟩ := destination_eq_ok_iff.mp h
  obtain ⟨hfolder, hsize, -, rfl⟩ := fileIn_eq_ok_iff.mp hfile
  have hstart : fs'.start l = fs.start l := by simp only [start, grows.working]
  have hlast : fs'.enter parent name = .ok (parent ++ [name]) := by
    refine (enter_eq_ok_iff fs').mpr ⟨grows.folders _ hfolder, hsize, ?_, rfl⟩
    rw [Directory.isSome_get?, there, Bool.or_true]
  refine locate_eq_ok_iff.mpr ⟨hpath, ?_⟩
  rw [hstart]
  cases way with
  | root hbelow hparts plain hfront =>
      obtain ⟨hempty, hdot, hdots⟩ := plain
      have hstep : fs'.step parent name = .ok (parent ++ [name]) := by
        simpa [step, hempty, hdot, hdots] using hlast
      refine ⟨parent ++ [name], ?_, by rw [hbelow]; rfl⟩
      rw [hparts, List.foldlM_append, bind_eq_ok]
      exact ⟨parent, foldlM_mono (fun _ _ _ => grows.step) hfront, by simpa using hstep⟩
  | @below front base hbelow hbase hfront =>
      refine ⟨base, foldlM_mono (fun _ _ _ => grows.step) hbase, ?_⟩
      rw [hbelow, List.foldlM_append, bind_eq_ok]
      exact ⟨parent, foldlM_mono (fun _ _ _ => grows.enter) hfront, by simpa using hlast⟩

end Destination

section Write

variable {fs fs' : FileSystem} {l : Location} {content : ByteArray}

/-- A file that was written is found, and holds what was written. Nothing else has changed. -/
theorem write_eq_ok (h : fs.write l content = .ok fs') :
    ∃ place, fs'.locate l = .ok place ∧
      (∀ q, fs'.tree.content? q = if q = place then some content else fs.tree.content? q) ∧
      ∀ q, fs'.tree.isFolder q = fs.tree.isFolder q := by
  obtain ⟨place, hd, h⟩ := bind_eq_ok.mp h
  obtain rfl := Except.ok.inj h
  obtain ⟨-, parent, name, -, hfile⟩ := destination_eq_ok_iff.mp hd
  obtain ⟨hfolder, -, hnot, rfl⟩ := fileIn_eq_ok_iff.mp hfile
  have views := Directory.insert_append hfolder hnot content
  have there := (views (parent ++ [name])).2.trans (if_pos rfl)
  refine ⟨_, locate_of_destination hd ⟨rfl, ?_, ?_⟩ (Option.isSome_of_eq_some there),
    fun q => (views q).2, fun q => (views q).1⟩
  · intro q hq
    rw [(views q).1, hq]
  · intro q hq
    rw [Directory.isSome_get?] at hq ⊢
    rw [(views q).1, (views q).2]
    split
    · simp
    · exact hq

/-- A file reads as it was written. -/
theorem read_write (h : fs.write l content = .ok fs') : fs'.read l = .ok content := by
  obtain ⟨place, hl, files, -⟩ := write_eq_ok h
  exact read_eq_ok_iff.mpr ⟨place, hl, (files place).trans (if_pos rfl)⟩

/-- Writing the same once more changes nothing. -/
theorem write_write (h : fs.write l content = .ok fs') : fs'.write l content = .ok fs' := by
  obtain ⟨place, hl, files, -⟩ := write_eq_ok h
  have hc := (files place).trans (if_pos rfl)
  have hd := destination_eq_ok hl (Option.isSome_of_eq_some hc)
  simp only [write, hd, bind, Except.bind, Directory.insert_of_content? hc]

end Write

end FileSystem

end HeaderNotes

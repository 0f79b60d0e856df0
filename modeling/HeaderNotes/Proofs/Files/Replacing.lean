import HeaderNotes.Proofs.Files.Writing
import HeaderNotes.Proofs.Text.LineCuts

/-!
Replacing a file by way of a temporary one. New lines are first written to a file of a new name,
and this file is then moved to its place. If that fails, the temporary file is taken away again and
everything is as it was before; if it succeeds, one file has changed. And since lines are kept with
their terminators, no byte of a text is lost when it is read or written as lines.
-/

namespace HeaderNotes

theorem Text.toUTF8_unlines_cons (line : String) (lines : List String) :
    (unlines (line :: lines)).toUTF8 = line.toUTF8 ++ (unlines lines).toUTF8 := by
  have h : unlines (line :: lines) = line ++ unlines lines := by
    apply String.toList_injective
    simp
  rw [h]
  exact String.toByteArray_append

namespace Directory

variable {d : Directory}

theorem remove_put {name : String} (h : d.find? name = none) (entry : Entry) :
    (d.put name entry).remove name = d := by
  induction d with
  | empty => cases entry <;> simp [put, remove]
  | file n content rest ih =>
      by_cases hn : n = name
      · simp [find?, hn] at h
      · simp only [put, hn, if_false, remove, ih (by simpa [find?, hn] using h)]
  | folder n inner rest _ ih =>
      by_cases hn : n = name
      · simp [find?, hn] at h
      · simp only [put, hn, if_false, remove, ih (by simpa [find?, hn] using h)]

theorem put_put (name : String) (first second : Entry) :
    (d.put name first).put name second = d.put name second := by
  induction d with
  | empty => cases first <;> cases second <;> simp [put]
  | file n content rest ih =>
      by_cases hn : n = name
      · cases first <;> cases second <;> simp [put, hn]
      · simp only [put, hn, if_false, ih]
  | folder n inner rest _ ih =>
      by_cases hn : n = name
      · cases first <;> cases second <;> simp [put, hn]
      · simp only [put, hn, if_false, ih]

theorem insert_insert (place : List String) (first second : Entry) :
    (d.insert first place).insert second place = d.insert second place := by
  induction place generalizing d with
  | nil => rfl
  | cons name names ih =>
      cases names with
      | nil => exact put_put name first second
      | cons next names =>
          have hput : ∀ new, (d.put name (.folder new)).subdirectory name = new := by
            simp [subdirectory]
          simp only [insert_cons_cons, hput, put_put, ih]

theorem erase_cons_append {name next : String} {names : List String} {inner : Directory}
    (h : d.find? name = some (.folder inner)) :
    d.erase (name :: (names ++ [next])) = d.put name (.folder (inner.erase (names ++ [next]))) := by
  cases names <;> simp [erase, h]

/-- A file that is put where nothing was, and taken away again, leaves the tree as it was. -/
theorem erase_insert {parent : List String} {name : String} (hp : d.isFolder parent)
    (hn : d.get? (parent ++ [name]) = none) (entry : Entry) :
    (d.insert entry (parent ++ [name])).erase (parent ++ [name]) = d := by
  induction parent generalizing d with
  | nil =>
      rw [List.nil_append, get?_singleton] at hn
      exact remove_put hn entry
  | cons first parent ih =>
      obtain ⟨inner, hf, hin⟩ := exists_find?_of_isFolder hp
      have hnot : inner.get? (parent ++ [name]) = none := by
        simpa [get?, hf] using hn
      have hput : ∀ new, (d.put first (.folder new)).find? first = some (.folder new) := by
        simp
      rw [List.cons_append, insert_cons_append, subdirectory_of_find? hf,
        erase_cons_append (hput _), put_put, ih hin hnot]
      exact put_of_find? hf

end Directory

namespace FileSystem

/-- The file system with a file of the given content at a place. -/
def store (fs : FileSystem) (place : List String) (content : ByteArray) : FileSystem :=
  { fs with tree := fs.tree.insert (.file content) place }

/-- The file system without what is at a place. -/
def discard (fs : FileSystem) (place : List String) : FileSystem :=
  { fs with tree := fs.tree.erase place }

/-- Moves a file to another place, where it takes the place of what is there. -/
def move (fs : FileSystem) (source place : List String) : FileSystem :=
  match fs.tree.content? source with
  | some content => (fs.discard source).store place content
  | none => fs

/-- Writes lines to a file one after the other, behind what is written already. The system may
refuse to store so much, and then the rest stays unwritten. -/
def fill (refuse : ByteArray → Option Cause) (place : List String) (fs : FileSystem)
    (written : ByteArray) : List String → Option Cause × FileSystem
  | [] => (none, fs)
  | line :: lines =>
    let more := written ++ line.toUTF8
    match refuse more with
    | some cause => (some cause, fs)
    | none => fill refuse place (fs.store place more) more lines

/-- Moves a temporary file to where a location is written, or takes it away if it cannot be
written. -/
def settle (fs : FileSystem) (temporary : List String) (l : Location) :
    Except Cause Unit × FileSystem :=
  match fs.destination l with
  | .ok place => (.ok (), fs.move temporary place)
  | .error e => (.error (.system e), fs.discard temporary)

/-- Replaces a file by the given lines, by way of a temporary file `name` in the directory at
`folder`. The file system that is left comes with the result. -/
def writeLinesVia (fs : FileSystem) (refuse : ByteArray → Option Cause) (folder : List String)
    (name : String) (l : Location) (lines : List String) : Except Cause Unit × FileSystem :=
  match fs.fileIn folder name, refuse .empty with
  | .error e, _ => (.error (.system e), fs)
  | .ok _, some cause => (.error cause, fs)
  | .ok temporary, none =>
    match fill refuse temporary (fs.store temporary .empty) .empty lines with
    | (some cause, filled) => (.error cause, filled.discard temporary)
    | (none, filled) => filled.settle temporary l

/-- The same directories, whatever files are in them. -/
structure SameFolders (fs fs' : FileSystem) : Prop where
  working : fs'.working = fs.working
  folders : ∀ q, fs'.tree.isFolder q = fs.tree.isFolder q

theorem SameFolders.symm {fs fs' : FileSystem} (h : SameFolders fs fs') : SameFolders fs' fs :=
  ⟨h.working.symm, fun q => (h.folders q).symm⟩

theorem isFolder_of_enter {fs : FileSystem} {place found : List String} {name : String}
    (h : fs.enter place name = .ok found) : fs.tree.isFolder place :=
  ((enter_eq_ok_iff fs).mp h).1

theorem isFolder_of_step {fs : FileSystem} {place found : List String} {part : String}
    (h : fs.step place part = .ok found) : fs.tree.isFolder place := by
  rw [step_eq] at h
  split at h
  · grind
  · split at h
    · grind
    · exact isFolder_of_enter h

/-- Two ways of going on agree on every way with a good end, if they agree on the steps to good
places and only good places can be left. -/
theorem foldlM_transfer {α β ε : Type} {f g : β → α → Except ε β} {P : β → Prop} {as : List α}
    {b c : β} (h : as.foldlM f b = .ok c) (hc : P c)
    (left : ∀ b a c, f b a = .ok c → P b) (agree : ∀ b a c, f b a = .ok c → P c → g b a = .ok c) :
    as.foldlM g b = .ok c ∧ P b := by
  induction as generalizing b with
  | nil =>
      obtain rfl : b = c := by simpa [pure, Except.pure] using h
      exact ⟨rfl, hc⟩
  | cons a as ih =>
      rw [List.foldlM_cons, bind_eq_ok] at h ⊢
      obtain ⟨next, hn, h⟩ := h
      obtain ⟨hrest, hnext⟩ := ih h
      exact ⟨⟨next, agree _ _ _ hn hnext, hrest⟩, left _ _ _ hn⟩

section SameFolders

variable {fs fs' : FileSystem} (same : SameFolders fs fs')

include same

/-- A way that ends in a directory only passes directories, so files do not matter to it. -/
theorem SameFolders.enter {place found : List String} {name : String}
    (h : fs.enter place name = .ok found) (hf : fs.tree.isFolder found) :
    fs'.enter place name = .ok found := by
  obtain ⟨hplace, hsize, -, rfl⟩ := (enter_eq_ok_iff fs).mp h
  refine (enter_eq_ok_iff fs').mpr ⟨?_, hsize, ?_, rfl⟩
  · rw [same.folders, hplace]
  · rw [Directory.isSome_get?, same.folders, hf, Bool.true_or]

theorem SameFolders.step {place found : List String} {part : String}
    (h : fs.step place part = .ok found) (hf : fs.tree.isFolder found) :
    fs'.step place part = .ok found := by
  have hplace := isFolder_of_step h
  rw [step_eq, hplace] at h
  rw [step_eq, same.folders, hplace]
  split
  · simpa [*] using h
  · split
    · simpa [*] using h
    · refine same.enter ?_ hf
      simpa [*] using h

theorem SameFolders.way {l : Location} {parent : List String} {name : String}
    (h : Way fs l parent name) (hf : fs.tree.isFolder parent) : Way fs' l parent name := by
  have hstart : fs'.start l = fs.start l := by simp only [start, same.working]
  have steps : ∀ {parts base place : List String}, parts.foldlM fs.step base = .ok place →
      fs.tree.isFolder place → parts.foldlM fs'.step base = .ok place := fun h hp =>
    (foldlM_transfer (P := fun q => fs.tree.isFolder q) h hp
      (fun _ _ _ => isFolder_of_step) fun _ _ _ => same.step).1
  cases h with
  | root hbelow hparts plain hway =>
      exact .root hbelow hparts plain (hstart ▸ steps hway hf)
  | below hbelow hroot hway =>
      obtain ⟨hway', hbase⟩ := foldlM_transfer (P := fun q => fs.tree.isFolder q) hway hf
        (fun _ _ _ => isFolder_of_enter) fun _ _ _ => same.enter
      exact .below hbelow (hstart ▸ steps hroot hbase) hway'

/-- Where a location is written depends on the directories alone. -/
theorem SameFolders.destination {l : Location} {place : List String}
    (h : fs.destination l = .ok place) : fs'.destination l = .ok place := by
  obtain ⟨hpath, parent, name, way, hfile⟩ := destination_eq_ok_iff.mp h
  obtain ⟨hfolder, hsize, hnot, rfl⟩ := fileIn_eq_ok_iff.mp hfile
  refine destination_eq_ok_iff.mpr ⟨hpath, parent, name, same.way way hfolder, ?_⟩
  refine fileIn_eq_ok_iff.mpr ⟨?_, hsize, ?_, rfl⟩
  · rw [same.folders, hfolder]
  · rw [same.folders, hnot]

end SameFolders

section Temporary

variable {fs : FileSystem} {folder : List String} {name : String}

theorem store_store (fs : FileSystem) (place : List String) (first second : ByteArray) :
    (fs.store place first).store place second = fs.store place second := by
  simp only [store, Directory.insert_insert]

variable (hfolder : fs.tree.isFolder folder) (fresh : fs.tree.get? (folder ++ [name]) = none)

include hfolder fresh

theorem discard_store (content : ByteArray) :
    (fs.store (folder ++ [name]) content).discard (folder ++ [name]) = fs := by
  simp only [store, discard, Directory.erase_insert hfolder fresh]

theorem views_store (content : ByteArray) (q : List String) :
    (fs.store (folder ++ [name]) content).tree.isFolder q = fs.tree.isFolder q ∧
      (fs.store (folder ++ [name]) content).tree.content? q =
        if q = folder ++ [name] then some content else fs.tree.content? q := by
  refine Directory.insert_append hfolder ?_ content q
  simp [Directory.isFolder, fresh]

theorem move_store (content : ByteArray) (place : List String) :
    (fs.store (folder ++ [name]) content).move (folder ++ [name]) place =
      fs.store place content := by
  have there := (views_store hfolder fresh content (folder ++ [name])).2
  rw [if_pos rfl] at there
  rw [move, there]
  exact congrArg (fun clean => clean.store place content) (discard_store hfolder fresh content)

theorem destination_store (content : ByteArray) (l : Location) (place : List String) :
    (fs.store (folder ++ [name]) content).destination l = .ok place ↔
      fs.destination l = .ok place := by
  have same : SameFolders fs (fs.store (folder ++ [name]) content) :=
    ⟨rfl, fun q => (views_store hfolder fresh content q).1⟩
  exact ⟨same.symm.destination, same.destination⟩

/-- Moving the temporary file to its place is writing what it holds. -/
theorem settle_store_of_write {fs' : FileSystem} {content : ByteArray} {l : Location}
    (h : fs.write l content = .ok fs') :
    (fs.store (folder ++ [name]) content).settle (folder ++ [name]) l = (.ok (), fs') := by
  obtain ⟨place, hd, h⟩ := bind_eq_ok.mp h
  obtain rfl := Except.ok.inj h
  simp only [settle, (destination_store hfolder fresh content l place).mpr hd,
    move_store hfolder fresh]
  rfl

theorem settle_store_cases (content : ByteArray) (l : Location) :
    (∃ cause, (fs.store (folder ++ [name]) content).settle (folder ++ [name]) l =
        (.error cause, fs)) ∨
      ∃ fs', fs.write l content = .ok fs' ∧
        (fs.store (folder ++ [name]) content).settle (folder ++ [name]) l = (.ok (), fs') := by
  cases hd : (fs.store (folder ++ [name]) content).destination l with
  | error e =>
      left
      refine ⟨.system e, ?_⟩
      simp only [settle, hd, discard_store hfolder fresh]
  | ok place =>
      right
      have hd' := (destination_store hfolder fresh content l place).mp hd
      have written : fs.write l content = .ok (fs.store place content) :=
        bind_eq_ok.mpr ⟨place, hd', rfl⟩
      exact ⟨_, written, settle_store_of_write hfolder fresh written⟩

end Temporary

section Fill

variable {fs : FileSystem} (refuse : ByteArray → Option Cause) (place : List String)

/-- However far the writing comes, only the temporary file is touched. -/
theorem fill_cases (written : ByteArray) (lines : List String) :
    (∃ cause part, fill refuse place (fs.store place written) written lines =
        (some cause, fs.store place part)) ∨
      fill refuse place (fs.store place written) written lines =
        (none, fs.store place (written ++ (Text.unlines lines).toUTF8)) := by
  induction lines generalizing written with
  | nil =>
      right
      simp [fill, Text.unlines]
  | cons line lines ih =>
      cases hr : refuse (written ++ line.toUTF8) with
      | some cause =>
          left
          exact ⟨cause, written, by simp only [fill, hr]⟩
      | none =>
          have hrest := ih (written ++ line.toUTF8)
          rw [ByteArray.append_assoc, ← Text.toUTF8_unlines_cons] at hrest
          simpa only [fill, hr, store_store] using hrest

theorem fill_not_refused {refuse : ByteArray → Option Cause}
    (free : ∀ content, refuse content = none) (fs : FileSystem) (written : ByteArray)
    (lines : List String) : (fill refuse place fs written lines).1 = none := by
  induction lines generalizing fs written with
  | nil => rfl
  | cons line lines ih => simpa only [fill, free] using ih _ _

end Fill

section WriteLines

variable {fs fs' : FileSystem} {l : Location} {lines : List String}

theorem writeLines_eq_ok_iff :
    fs.writeLines l lines = .ok fs' ↔ fs.write l (Text.unlines lines).toUTF8 = .ok fs' := by
  rw [writeLines]
  cases fs.write l (Text.unlines lines).toUTF8 <;> simp [Except.mapError]

variable {refuse : ByteArray → Option Cause} {folder : List String} {name : String}
  (fresh : fs.tree.get? (folder ++ [name]) = none)

include fresh

/-- All or nothing: whatever the system refuses, either everything is as before, or the file has
been written and the temporary one is gone. -/
theorem writeLinesVia_cases (refuse : ByteArray → Option Cause) (l : Location)
    (lines : List String) :
    (∃ cause, fs.writeLinesVia refuse folder name l lines = (.error cause, fs)) ∨
      ∃ fs', fs.writeLines l lines = .ok fs' ∧
        fs.writeLinesVia refuse folder name l lines = (.ok (), fs') := by
  cases hfile : fs.fileIn folder name with
  | error e => exact .inl ⟨.system e, by simp only [writeLinesVia, hfile]⟩
  | ok temporary =>
      obtain ⟨hfolder, -, -, rfl⟩ := fileIn_eq_ok_iff.mp hfile
      cases hr : refuse .empty with
      | some cause => exact .inl ⟨cause, by simp only [writeLinesVia, hfile, hr]⟩
      | none =>
          simp only [writeLinesVia, hfile, hr, writeLines_eq_ok_iff]
          rcases fill_cases refuse (folder ++ [name]) .empty lines with ⟨cause, part, hf⟩ | hf
          · rw [hf]
            exact .inl ⟨cause, by simp only [discard_store hfolder fresh]⟩
          · rw [hf, ByteArray.empty_append]
            exact settle_store_cases hfolder fresh _ l

theorem writeLinesVia_eq_ok (free : ∀ content, refuse content = none)
    (hfile : fs.fileIn folder name = .ok (folder ++ [name]))
    (h : fs.writeLines l lines = .ok fs') :
    fs.writeLinesVia refuse folder name l lines = (.ok (), fs') := by
  obtain ⟨hfolder, -⟩ := fileIn_eq_ok_iff.mp hfile
  have unrefused := fill_not_refused (folder ++ [name]) free
    (fs.store (folder ++ [name]) .empty) .empty lines
  simp only [writeLinesVia, hfile, free]
  rcases fill_cases refuse (folder ++ [name]) .empty lines with ⟨cause, part, hf⟩ | hf
  · rw [hf] at unrefused
    exact absurd unrefused (by simp)
  · rw [hf, ByteArray.empty_append]
    exact settle_store_of_write hfolder fresh (writeLines_eq_ok_iff.mp h)

end WriteLines

section Lossless

variable {fs fs' : FileSystem} {l : Location}

section Stored

variable {place : List String} {bytes : ByteArray} (hl : fs.locate l = .ok place)
  (hb : fs.tree.content? place = some bytes)

include hl hb

theorem readLines_stored {lines : List String} :
    fs.readLines l = .ok lines ↔ ∃ text : String, text.toUTF8 = bytes ∧ Text.lines text = lines := by
  rw [readLines_eq_ok_iff]
  constructor
  · rintro ⟨place', text, hl', hb', rfl⟩
    obtain rfl := Except.ok.inj (hl.symm.trans hl')
    exact ⟨text, Option.some.inj (hb'.symm.trans hb), rfl⟩
  · rintro ⟨text, rfl, rfl⟩
    exact ⟨place, text, hl, hb, rfl⟩

theorem exists_readLines_iff : (∃ lines, fs.readLines l = .ok lines) ↔ bytes.IsValidUTF8 := by
  simp only [readLines_stored hl hb]
  constructor
  · rintro ⟨_, text, rfl, _⟩
    exact text.isValidUTF8
  · intro valid
    exact ⟨_, ⟨bytes, valid⟩, rfl, rfl⟩

theorem unlines_of_readLines {lines : List String} (h : fs.readLines l = .ok lines) :
    (Text.unlines lines).toUTF8 = bytes ∧ Text.ProperLines lines := by
  obtain ⟨text, rfl, rfl⟩ := (readLines_stored hl hb).mp h
  exact ⟨by rw [Text.unlines_lines], (Text.wellCut_lines text).properLines⟩

end Stored

theorem writeLines_effect {lines : List String} (h : fs.writeLines l lines = .ok fs') :
    fs'.readLines l = .ok (Text.lines (Text.unlines lines)) ∧
      (∀ q, fs'.tree.isFolder q = fs.tree.isFolder q) ∧
      ∃ place, fs'.locate l = .ok place ∧
        ∀ q, q ≠ place → fs'.tree.content? q = fs.tree.content? q := by
  obtain ⟨place, hl, files, folders⟩ := write_eq_ok (writeLines_eq_ok_iff.mp h)
  refine ⟨readLines_eq_ok_iff.mpr ⟨place, _, hl, ?_, rfl⟩, folders, place, hl, ?_⟩
  · rw [files, if_pos rfl]
  · intro q hq
    rw [files, if_neg hq]

end Lossless

/-- Reading and writing lines loses no byte. A file is read as lines if it is UTF-8, and its lines
are the only proper ones that make up its content. Lines that are written are read back, cut anew,
and no other file changes; lines that cannot be written change no file, not even where they are
written by way of a temporary file and the system refuses at any moment. -/
theorem lines_lossless (fs : FileSystem) (l : Location) :
    (∀ place bytes, fs.locate l = .ok place → fs.tree.content? place = some bytes →
      ((∃ lines, fs.readLines l = .ok lines) ↔ bytes.IsValidUTF8) ∧
        ∀ lines, fs.readLines l = .ok lines →
          (Text.unlines lines).toUTF8 = bytes ∧ Text.ProperLines lines) ∧
    (∀ lines, Text.ProperLines lines →
      Text.lines (Text.unlines lines) = lines ∧
        ∀ others, Text.ProperLines others → Text.unlines others = Text.unlines lines →
          others = lines) ∧
    (∀ lines fs', fs.writeLines l lines = .ok fs' →
      fs'.readLines l = .ok (Text.lines (Text.unlines lines)) ∧
        (∀ q, fs'.tree.isFolder q = fs.tree.isFolder q) ∧
        ∃ place, fs'.locate l = .ok place ∧
          ∀ q, q ≠ place → fs'.tree.content? q = fs.tree.content? q) ∧
    ∀ folder name, fs.tree.get? (folder ++ [name]) = none → ∀ refuse lines,
      ((∃ cause, fs.writeLinesVia refuse folder name l lines = (.error cause, fs)) ∨
        ∃ fs', fs.writeLines l lines = .ok fs' ∧
          fs.writeLinesVia refuse folder name l lines = (.ok (), fs')) ∧
      ((∀ content, refuse content = none) → fs.fileIn folder name = .ok (folder ++ [name]) →
        ∀ fs', fs.writeLines l lines = .ok fs' →
          fs.writeLinesVia refuse folder name l lines = (.ok (), fs')) := by
  refine ⟨?_, ?_, fun lines fs' h => writeLines_effect h, ?_⟩
  · intro place bytes hl hb
    exact ⟨exists_readLines_iff hl hb, fun lines h => unlines_of_readLines hl hb h⟩
  · intro lines proper
    refine ⟨Text.lines_unlines proper.wellCut, fun others proper' h => ?_⟩
    rw [← Text.lines_unlines proper'.wellCut, h, Text.lines_unlines proper.wellCut]
  · intro folder name fresh refuse lines
    exact ⟨writeLinesVia_cases fresh refuse l lines,
      fun free hfile fs' h => writeLinesVia_eq_ok fresh free hfile h⟩

def oneFile : FileSystem where
  tree := .file "a.js" "a\r\nb".toUTF8 .empty

/-- What a disk refuses that has room for one byte only. -/
def full (content : ByteArray) : Option Cause :=
  if content.size < 2 then none else some (.other "No space left on device (os error 28)")

theorem lines_lossless_sample :
    (∃ lines, oneFile.readLines ⟨"a.js", []⟩ = .ok lines ∧
      (Text.unlines lines).toUTF8 = "a\r\nb".toUTF8) ∧
    Text.lines (Text.unlines ["a\r\n", "b"]) = ["a\r\n", "b"] ∧
    (∃ fs', oneFile.writeLines ⟨"a.js", []⟩ ["", "c\n", "d"] = .ok fs' ∧
      fs'.readLines ⟨"a.js", []⟩ = .ok ["c\n", "d"] ∧
      oneFile.writeLinesVia (fun _ => none) [] ".tmp" ⟨"a.js", []⟩ ["", "c\n", "d"] =
        (.ok (), fs')) ∧
    ∃ cause, oneFile.writeLinesVia full [] ".tmp" ⟨"a.js", []⟩ ["", "c\n", "d"] =
      (.error cause, oneFile) := by
  obtain ⟨reading, cutting, writing, replacing⟩ := lines_lossless oneFile ⟨"a.js", []⟩
  have place : oneFile.locate ⟨"a.js", []⟩ = .ok ["a.js"] := by decide +kernel
  have target : oneFile.destination ⟨"a.js", []⟩ = .ok ["a.js"] := by decide +kernel
  have temporary : oneFile.fileIn [] ".tmp" = .ok ([] ++ [".tmp"]) := by decide +kernel
  have written : oneFile.writeLines ⟨"a.js", []⟩ ["", "c\n", "d"] =
      .ok (oneFile.store ["a.js"] "c\nd".toUTF8) :=
    writeLines_eq_ok_iff.mpr (bind_eq_ok.mpr ⟨_, target, rfl⟩)
  have refused :
      (oneFile.writeLinesVia full [] ".tmp" ⟨"a.js", []⟩ ["", "c\n", "d"]).1.isOk = false := by
    decide +kernel
  obtain ⟨readable, exactly⟩ := reading _ _ place rfl
  obtain ⟨lines, read⟩ := readable.mpr "a\r\nb".isValidUTF8
  refine ⟨⟨lines, read, (exactly lines read).1⟩, ?_, ⟨_, written, (writing _ _ written).1, ?_⟩, ?_⟩
  · exact (cutting _ ⟨by decide, by decide, by decide⟩).1
  · exact (replacing [] ".tmp" rfl _ _).2 (fun _ => rfl) temporary _ written
  · refine (replacing [] ".tmp" rfl full _).1.resolve_right ?_
    rintro ⟨fs', -, h⟩
    rw [h] at refused
    exact Bool.noConfusion refused

end FileSystem
end HeaderNotes

import HeaderNotes.Files.Directory

/-!
What stands at the places of a directory tree. A place holds a directory, a file with its content,
or nothing. Putting a new content at the place of a file changes the content of that file and
nothing else that a place can tell; it does not even change the order in which entries are listed.
-/

namespace HeaderNotes
namespace Directory

def content? (d : Directory) (place : List String) : Option ByteArray :=
  match d.get? place with
  | some (.file content) => some content
  | _ => none

def isFolder (d : Directory) (place : List String) : Bool :=
  match d.get? place with
  | some (.folder _) => true
  | _ => false

section Views

variable (d : Directory)

theorem content?_eq_some_iff {d : Directory} {place : List String} {content : ByteArray} :
    d.content? place = some content ↔ d.get? place = some (.file content) := by
  simp only [content?]
  split <;> simp_all

theorem isFolder_iff {d : Directory} {place : List String} :
    d.isFolder place ↔ ∃ inner, d.get? place = some (.folder inner) := by
  simp only [isFolder]
  split <;> simp_all

@[simp] theorem content?_nil : d.content? [] = none := rfl

theorem isSome_get? (place : List String) :
    (d.get? place).isSome = (d.isFolder place || (d.content? place).isSome) := by
  cases h : d.get? place with
  | none => simp [isFolder, content?, h]
  | some entry => cases entry <;> simp [isFolder, content?, h]

theorem get?_singleton (name : String) : d.get? [name] = d.find? name := by
  simp only [get?]
  cases d.find? name with
  | none => rfl
  | some entry => cases entry <;> rfl

theorem content?_cons (name : String) (names : List String) :
    d.content? (name :: names) =
      match d.find? name with
      | some (.folder inner) => inner.content? names
      | some (.file content) => if names = [] then some content else none
      | none => none := by
  simp only [content?, get?]
  cases d.find? name with
  | none => rfl
  | some entry => cases entry <;> cases names <;> rfl

/-- A place that goes on below another one goes on below a directory. -/
theorem get?_append (place more : List String) :
    d.get? (place ++ more) =
      match d.get? place with
      | some (.folder inner) => inner.get? more
      | some (.file content) => if more.isEmpty then some (.file content) else none
      | none => none := by
  induction place generalizing d with
  | nil => rfl
  | cons name names ih =>
      simp only [List.cons_append, get?]
      cases hf : d.find? name with
      | none => rfl
      | some entry =>
          cases entry with
          | folder inner => exact ih inner
          | file content => cases names <;> cases more <;> rfl

theorem isFolder_of_isSome_append {d : Directory} {place : List String} {name : String}
    (h : (d.get? (place ++ [name])).isSome) : d.isFolder place := by
  rw [get?_append] at h
  cases hp : d.get? place with
  | none => simp [hp] at h
  | some entry =>
      cases entry with
      | file content => simp [hp] at h
      | folder inner => exact isFolder_iff.mpr ⟨inner, hp⟩

theorem isFolder_dropLast {d : Directory} {place : List String} (h : d.isFolder place) :
    d.isFolder place.dropLast := by
  rcases List.eq_nil_or_concat place with rfl | ⟨front, last, rfl⟩
  · exact h
  · rw [List.concat_eq_append] at h ⊢
    rw [List.dropLast_concat]
    exact isFolder_of_isSome_append (by rw [isSome_get?, h]; rfl)

end Views

section Insert

variable {d : Directory}

theorem insert_cons_cons (entry : Entry) (name next : String) (names : List String) :
    d.insert entry (name :: next :: names) =
      d.put name (.folder (insert entry (next :: names) (d.subdirectory name))) := rfl

theorem find?_of_content?_singleton {name : String} (h : (d.content? [name]).isSome) :
    ∃ content, d.find? name = some (.file content) := by
  rw [content?_cons] at h
  cases hf : d.find? name with
  | none => simp [hf] at h
  | some entry =>
      cases entry with
      | file content => exact ⟨content, rfl⟩
      | folder inner => simp [hf] at h

theorem find?_of_content?_cons {name next : String} {names : List String}
    (h : (d.content? (name :: next :: names)).isSome) :
    ∃ inner, d.find? name = some (.folder inner) ∧
      (inner.content? (next :: names)).isSome := by
  rw [content?_cons] at h
  cases hf : d.find? name with
  | none => simp [hf] at h
  | some entry =>
      cases entry with
      | file content => simp [hf] at h
      | folder inner => exact ⟨inner, rfl, by simpa [hf] using h⟩

theorem subdirectory_of_find? {name : String} {inner : Directory}
    (h : d.find? name = some (.folder inner)) : d.subdirectory name = inner := by
  simp [subdirectory, h]

/-- A file that is put in the place of another one is all that changes. -/
theorem content?_insert {place : List String} (h : (d.content? place).isSome)
    (new : ByteArray) (q : List String) :
    (d.insert (.file new) place).content? q = if q = place then some new else d.content? q := by
  induction place generalizing d q with
  | nil => simp at h
  | cons name names ih =>
      cases q with
      | nil => simp
      | cons n ns =>
          cases names with
          | nil =>
              obtain ⟨old, hf⟩ := find?_of_content?_singleton h
              simp only [insert, content?_cons, find?_put]
              by_cases hn : name = n
              · subst hn
                by_cases hns : ns = [] <;> simp [hf, hns]
              · simp [hn, Ne.symm hn]
          | cons next names =>
              obtain ⟨inner, hf, hin⟩ := find?_of_content?_cons h
              simp only [insert_cons_cons, content?_cons, find?_put, subdirectory_of_find? hf]
              by_cases hn : name = n
              · subst hn
                simp [hf, ih hin]
              · simp [hn, Ne.symm hn]

end Insert

/-- A tree with all its files emptied: only names, and the order in which they are listed. -/
def skeleton : Directory → Directory
  | empty => empty
  | file name _ rest => file name .empty rest.skeleton
  | folder name inner rest => folder name inner.skeleton rest.skeleton

end Directory

/-- An entry with all its files emptied. -/
def Entry.skeleton : Entry → Entry
  | .file _ => .file .empty
  | .folder inner => .folder inner.skeleton

namespace Directory

section Skeleton

variable (d : Directory)

theorem find?_skeleton (name : String) :
    d.skeleton.find? name = (d.find? name).map Entry.skeleton := by
  induction d with
  | empty => rfl
  | file n content rest ih =>
      simp only [skeleton, find?, ih]
      split <;> rfl
  | folder n inner rest _ ih =>
      simp only [skeleton, find?, ih]
      split <;> rfl

theorem skeleton_put (name : String) (entry : Entry) :
    (d.put name entry).skeleton = d.skeleton.put name entry.skeleton := by
  induction d with
  | empty => cases entry <;> rfl
  | file n content rest ih =>
      simp only [put, skeleton]
      split
      · cases entry <;> rfl
      · simp only [skeleton, ih]
  | folder n inner rest _ ih =>
      simp only [put, skeleton]
      split
      · cases entry <;> rfl
      · simp only [skeleton, ih]

theorem put_of_find? {d : Directory} {name : String} {entry : Entry}
    (h : d.find? name = some entry) : d.put name entry = d := by
  induction d with
  | empty => simp [find?] at h
  | file n content rest ih =>
      by_cases hn : n = name
      · obtain rfl : Entry.file content = entry := by simpa [find?, hn] using h
        simp [put, hn]
      · simp only [put, hn, if_false, ih (by simpa [find?, hn] using h)]
  | folder n inner rest _ ih =>
      by_cases hn : n = name
      · obtain rfl : Entry.folder inner = entry := by simpa [find?, hn] using h
        simp [put, hn]
      · simp only [put, hn, if_false, ih (by simpa [find?, hn] using h)]

theorem skeleton_insert {d : Directory} {place : List String} (h : (d.content? place).isSome)
    (new : ByteArray) : (d.insert (.file new) place).skeleton = d.skeleton := by
  induction place generalizing d with
  | nil => simp at h
  | cons name names ih =>
      cases names with
      | nil =>
          obtain ⟨old, hf⟩ := find?_of_content?_singleton h
          simp only [insert, skeleton_put]
          apply put_of_find?
          rw [find?_skeleton, hf]
          rfl
      | cons next names =>
          obtain ⟨inner, hf, hin⟩ := find?_of_content?_cons h
          rw [insert_cons_cons, skeleton_put, subdirectory_of_find? hf]
          apply put_of_find?
          rw [find?_skeleton, hf, Option.map_some, Entry.skeleton, Entry.skeleton, ih hin]

theorem filesWithin_skeleton (enter : String → Bool) :
    (d.skeleton.filesWithin enter).map Prod.fst = (d.filesWithin enter).map Prod.fst := by
  induction d with
  | empty => rfl
  | file n content rest ih => simp [skeleton, filesWithin, ih]
  | folder n inner rest ihInner ih =>
      simp only [skeleton, filesWithin, List.map_append, ih]
      split
      · have step := congrArg (List.map fun names => n :: names) ihInner
        simpa [Function.comp_def] using step
      · rfl

theorem get?_skeleton (place : List String) :
    d.skeleton.get? place = (d.get? place).map Entry.skeleton := by
  induction place generalizing d with
  | nil => rfl
  | cons name names ih =>
      simp only [get?, find?_skeleton]
      cases d.find? name with
      | none => rfl
      | some entry =>
          cases entry with
          | folder inner => exact ih inner
          | file content => cases names <;> rfl

theorem isFolder_skeleton (place : List String) :
    d.skeleton.isFolder place = d.isFolder place := by
  simp only [isFolder, get?_skeleton]
  cases d.get? place with
  | none => rfl
  | some entry => cases entry <;> rfl

theorem content?_skeleton (place : List String) :
    (d.skeleton.content? place).isSome = (d.content? place).isSome := by
  simp only [content?, get?_skeleton]
  cases d.get? place with
  | none => rfl
  | some entry => cases entry <;> rfl

theorem isFolder_insert {d : Directory} {place : List String} (h : (d.content? place).isSome)
    (new : ByteArray) (q : List String) :
    (d.insert (.file new) place).isFolder q = d.isFolder q := by
  rw [← isFolder_skeleton, skeleton_insert h, isFolder_skeleton]

end Skeleton

end Directory
end HeaderNotes

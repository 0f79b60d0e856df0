/-!
Directory trees. A directory lists its files and subdirectories one after the other; a place in
the tree is the list of names that leads to it.
-/

namespace HeaderNotes

inductive Directory
  | empty
  | file (name : String) (content : ByteArray) (rest : Directory)
  | folder (name : String) (inner rest : Directory)
deriving DecidableEq, Inhabited

inductive Entry
  | file (content : ByteArray)
  | folder (inner : Directory)

namespace Directory

def find? (name : String) : Directory → Option Entry
  | empty => none
  | file n content rest => if n = name then some (.file content) else rest.find? name
  | folder n inner rest => if n = name then some (.folder inner) else rest.find? name

/-- The entry at the given place. No names at all lead to the directory itself. -/
def get? : Directory → List String → Option Entry
  | d, [] => some (.folder d)
  | d, name :: names =>
    match d.find? name with
    | some (.folder inner) => inner.get? names
    | some (.file content) => if names.isEmpty then some (.file content) else none
    | none => none

/-- Gives the name to an entry, in place of the one that has it, or behind all others. -/
def put (name : String) (entry : Entry) : Directory → Directory
  | empty =>
    match entry with
    | .file content => file name content empty
    | .folder inner => folder name inner empty
  | file n content rest =>
    if n = name then
      match entry with
      | .file content => file name content rest
      | .folder inner => folder name inner rest
    else
      file n content (rest.put name entry)
  | folder n inner rest =>
    if n = name then
      match entry with
      | .file content => file name content rest
      | .folder inner => folder name inner rest
    else
      folder n inner (rest.put name entry)

/-- The subdirectory with the given name, empty if there is none. -/
def subdirectory (d : Directory) (name : String) : Directory :=
  match d.find? name with
  | some (.folder inner) => inner
  | _ => empty

/-- Puts an entry at the given place and makes the directories on the way. -/
def insert (entry : Entry) : List String → Directory → Directory
  | [], d => d
  | [name], d => d.put name entry
  | name :: names, d => d.put name (.folder (insert entry names (d.subdirectory name)))

def remove (name : String) : Directory → Directory
  | empty => empty
  | file n content rest => if n = name then rest else file n content (rest.remove name)
  | folder n inner rest => if n = name then rest else folder n inner (rest.remove name)

def erase : List String → Directory → Directory
  | [], d => d
  | [name], d => d.remove name
  | name :: names, d =>
    match d.find? name with
    | some (.folder inner) => d.put name (.folder (erase names inner))
    | _ => d

/-- The files that are reached by entering only the subdirectories whose names pass a test. -/
def filesWithin (enter : String → Bool) : Directory → List (List String × ByteArray)
  | empty => []
  | file name content rest => ([name], content) :: rest.filesWithin enter
  | folder name inner rest =>
    (if enter name then (inner.filesWithin enter).map fun (names, c) => (name :: names, c) else [])
      ++ rest.filesWithin enter

def files (d : Directory) : List (List String × ByteArray) :=
  d.filesWithin fun _ => true

@[simp] theorem find?_put (name other : String) (entry : Entry) (d : Directory) :
    (d.put name entry).find? other = if name = other then some entry else d.find? other := by
  induction d with
  | empty => cases entry <;> simp [put, find?]
  | file n content rest ih =>
      by_cases h : n = name
      · cases entry <;> simp only [put, find?, h, if_true] <;> split <;> rfl
      · simp only [put, h, if_false, find?, ih]
        grind
  | folder n inner rest _ ih =>
      by_cases h : n = name
      · cases entry <;> simp only [put, find?, h, if_true] <;> split <;> rfl
      · simp only [put, h, if_false, find?, ih]
        grind

end Directory
end HeaderNotes

import HeaderNotes.Files.Cause
import HeaderNotes.Files.Directory
import HeaderNotes.Files.Location
import HeaderNotes.Text.Lines

/-!
Reading and writing files. A file system is a directory tree with a working directory somewhere in
it; a path starts at the working directory, or at the top of the tree if a slash is in front, and
is followed part by part.

What a system has beside this tree is left out. There are no symbolic or hard links, so no file is
at two places; there are no permissions, so whatever is found can be read and replaced, and no
permission bits are carried over; a name is a text, so none fails to be UTF-8. Nor does anything
fail for lack of room or by a fault of the disk, and nobody else changes the tree. So `writeLines`
fails only where the path leads to no place for a file. Results that have to hold when writing
fails for other reasons take the way of writing as a parameter, or take the replacement of a file
apart into steps that may each be refused.
-/

namespace HeaderNotes

structure FileSystem where
  tree : Directory
  /-- The place of the working directory in the tree. -/
  working : List String := []

namespace FileSystem

/-- How many bytes a name may have. -/
def maxNameSize : Nat := 255

/-- How many bytes a path may have. -/
def maxPathSize : Nat := 4095

/-- What is wrong with a path before any part of it is looked at. -/
def pathError? (path : String) : Option SystemError :=
  if path.toList.contains '\x00' then some .nulInName
  else if path = "" then some .notFound
  else if maxPathSize < path.utf8ByteSize then some .nameTooLong
  else none

def folderAt (fs : FileSystem) (place : List String) : Except SystemError Directory :=
  match fs.tree.get? place with
  | some (.folder inner) => .ok inner
  | some (.file _) => .error .notDirectory
  | none => .error .notFound

def lookup (fs : FileSystem) (place : List String) (name : String) :
    Except SystemError (Option Entry) := do
  let inner ← fs.folderAt place
  if maxNameSize < name.utf8ByteSize then .error .nameTooLong else .ok (inner.find? name)

def enter (fs : FileSystem) (place : List String) (name : String) :
    Except SystemError (List String) := do
  match ← fs.lookup place name with
  | some _ => .ok (place ++ [name])
  | none => .error .notFound

/-- Goes on from a place of the tree by one part of a path. Even an empty part or a dot, which
lead nowhere else, need a directory to start from. Nothing lies above the top of the tree. -/
def step (fs : FileSystem) (place : List String) (part : String) :
    Except SystemError (List String) :=
  if part = "" ∨ part = "." then (fs.folderAt place).map fun _ => place
  else if part = ".." then (fs.folderAt place).map fun _ => place.dropLast
  else fs.enter place part

def start (fs : FileSystem) (l : Location) : List String :=
  if l.root.toList.head? = some '/' then [] else fs.working

def locate (fs : FileSystem) (l : Location) : Except SystemError (List String) := do
  match pathError? l.text with
  | some e => .error e
  | none => l.below.foldlM fs.enter (← l.rootParts.foldlM fs.step (fs.start l))

def contains (fs : FileSystem) (l : Location) : Bool :=
  (fs.locate l).isOk

def isFile (fs : FileSystem) (l : Location) : Bool :=
  match fs.locate l with
  | .ok place =>
    match fs.tree.get? place with
    | some (.file _) => true
    | _ => false
  | .error _ => false

def read (fs : FileSystem) (l : Location) : Except SystemError ByteArray := do
  match fs.tree.get? (← fs.locate l) with
  | some (.file content) => .ok content
  | some (.folder _) => .error .isDirectory
  | none => .error .notFound

/-- The place of a file of the given name in the directory at `parent`. -/
def fileIn (fs : FileSystem) (parent : List String) (name : String) :
    Except SystemError (List String) := do
  match ← fs.lookup parent name with
  | some (.folder _) => .error .isDirectory
  | _ => .ok (parent ++ [name])

/-- The place at which a path can be written that is followed from `place`. Its last part has to
be a name, while what comes before leads to a directory. -/
def rootDestination (fs : FileSystem) (place : List String) (parts : List String) :
    Except SystemError (List String) :=
  let named := (parts.reverse.dropWhile (· == "")).reverse
  match named.getLast? with
  | none => .error .isDirectory
  | some name => do
    let parent ← named.dropLast.foldlM fs.step place
    if named.length < parts.length ∨ name = "." ∨ name = ".." then
      (fs.folderAt parent).bind fun _ => .error .isDirectory
    else
      fs.fileIn parent name

/-- The place at which a location can be written: a name in an existing directory that does not
itself belong to a directory. -/
def destination (fs : FileSystem) (l : Location) : Except SystemError (List String) := do
  match pathError? l.text with
  | some e => .error e
  | none =>
    match l.below.getLast? with
    | none => fs.rootDestination (fs.start l) l.rootParts
    | some name =>
      let root ← l.rootParts.foldlM fs.step (fs.start l)
      fs.fileIn (← l.below.dropLast.foldlM fs.enter root) name

/-- Replaces or creates a file. On failure nothing changes. -/
def write (fs : FileSystem) (l : Location) (content : ByteArray) :
    Except SystemError FileSystem := do
  let place ← fs.destination l
  .ok { fs with tree := fs.tree.insert (.file content) place }

/-- The lines of a file, which has to be UTF-8. -/
def readLines (fs : FileSystem) (l : Location) : Except Cause (List String) :=
  match fs.read l with
  | .ok content =>
    match String.fromUTF8? content with
    | some text => .ok (Text.lines text)
    | none => .error (.notText ((Text.Utf8.fault? content.toList).getD ⟨0, none⟩))
  | .error e => .error (.system e)

def writeLines (fs : FileSystem) (l : Location) (lines : List String) : Except Cause FileSystem :=
  (fs.write l (Text.unlines lines).toUTF8).mapError .system

end FileSystem
end HeaderNotes

import HeaderNotes.Command.Run

/-!
The program. It loads what the arguments can touch into a file system of its own, runs the command
on that, prints, and puts changed files back in place. Nothing is proved about this layer: the
results of the library are about the command and the file system that it is given.
-/

namespace HeaderNotes.Main

def placeOf (fs : FileSystem) (path : String) : List String :=
  (Location.rootParts ⟨path, []⟩).foldl
    (fun place name =>
      if name = "" ∨ name = "." then place
      else if name = ".." then place.dropLast
      else place ++ [name])
    (fs.start ⟨path, []⟩)

def withEntry (fs : FileSystem) (place : List String) (entry : Entry) : FileSystem :=
  { fs with tree := fs.tree.insert entry place }

def below (path : String) (names : List String) : String :=
  Location.text ⟨path, names⟩

/-- The entries of the directory at a path, or nothing if a file is there; fails if there is
neither. -/
def listing (path : String) : IO (Option (List String)) := do
  let real ← IO.FS.realPath path
  if ← real.isDir then
    return some ((← real.readDir).toList.map fun entry => entry.fileName)
  else
    return none

partial def load (path : String) : IO (Option Entry) := do
  match ← (listing path).toBaseIO with
  | .error _ => return none
  | .ok none => return some (.file (← IO.FS.readBinFile path))
  | .ok (some names) =>
    let mut inner := Directory.empty
    for name in names do
      if let some found ← load (below path [name]) then
        inner := inner.put name found
    return some (.folder inner)

/-- Puts the entries on the way to a path into a file system, without what is in them. -/
def plantWay (fs : FileSystem) (path : String) : IO FileSystem := do
  let names := Location.rootParts ⟨path, []⟩
  let mut fs := fs
  for length in [1 : names.length] do
    let outer := "/".intercalate (names.take length)
    let place := placeOf fs outer
    if (fs.tree.get? place).isNone then
      match ← (listing outer).toBaseIO with
      | .error _ => pure ()
      | .ok none => fs := withEntry fs place (.file .empty)
      | .ok (some _) => fs := withEntry fs place (.folder .empty)
  return fs

def plant (fs : FileSystem) (path : String) : IO FileSystem := do
  let fs ← plantWay fs path
  match placeOf fs path, ← load path with
  | [], some (.folder inner) => return { fs with tree := inner }
  | place, some entry => return withEntry fs place entry
  | _, none => return fs

/-- A file system that holds nothing but the working directory. -/
def bare : IO FileSystem := do
  let path ← IO.FS.realPath "."
  let working := (Location.rootParts ⟨path.toString, []⟩).filter (· != "")
  return { tree := Directory.empty.insert (.folder .empty) working, working }

def pathsOf (i : Command.Invocation) : List String :=
  let config := i.config.getD Settings.defaultFile
  match i.task with
  | .annotate o => [o.path.getD ".", config]
  | .list o => [o.path.getD ".", config]
  | .init _ => [config]

/-- Writes a file beside its place and moves it there. -/
def replaceFile (path : String) (content : ByteArray) : IO Unit := do
  let beside := path ++ ".new"
  IO.FS.writeBinFile beside content
  IO.FS.rename beside path

def changedFiles (old new : Directory) : List (List String × ByteArray) :=
  new.files.filter fun entry => !old.files.contains entry

/-- Writes the changed files back below the paths that they were loaded from. -/
def save (paths : List String) (old new : FileSystem) : IO Unit := do
  for (place, content) in changedFiles old.tree new.tree do
    match paths.find? fun path => (placeOf old path).isPrefixOf place with
    | some path => replaceFile (below path (place.drop (placeOf old path).length)) content
    | none => throw (IO.userError ("no path leads to " ++ "/".intercalate place))

end HeaderNotes.Main

open HeaderNotes in
/-- Runs the program on its arguments and on the files they name. -/
def main (args : List String) : IO UInt32 := do
  let environment ← IO.getEnv Command.environmentVariable
  let paths :=
    match Command.Invocation.ofArguments args environment with
    | .ok i => Main.pathsOf i
    | .error _ => []
  let fs ← paths.foldlM Main.plant (← Main.bare)
  let exit := Command.run args environment fs
  Main.save paths fs exit.fileSystem
  IO.print exit.output.out
  IO.eprint exit.output.err
  return exit.status.toUInt32

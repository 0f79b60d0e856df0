import HeaderNotes.Failure
import HeaderNotes.Files.FileSystem
import HeaderNotes.Settings.Basic

/-!
The files that a run looks at. Below a directory these are the files with a wanted extension,
in order; hidden and ignored directories are not entered. A starting point that is itself a file
is taken whatever its name.
-/

namespace HeaderNotes

/-- The extension of a file name: what follows its last dot. A dot at the very front starts no
extension. -/
def extension? (name : String) : Option String :=
  let reversed := name.toList.reverse
  match reversed.dropWhile (· != '.') with
  | _ :: _ :: _ => some (String.ofList (reversed.takeWhile (· != '.')).reverse)
  | _ => none

/-- Whether a file name has one of the wanted extensions, which may be given with dots in
front. -/
def isWanted (extensions : List String) (name : String) : Bool :=
  match extension? name with
  | some extension =>
    extensions.any fun wanted => wanted.toList.dropWhile (· == '.') == extension.toList
  | none => false

/-- Inserts a list of names into a strictly increasing list of such lists. -/
def insertOrdered (names : List String) : List (List String) → List (List String)
  | [] => [names]
  | other :: rest =>
    if names < other then names :: other :: rest
    else if names = other then other :: rest
    else other :: insertOrdered names rest

/-- Sorts lists of names, each compared name by name, and drops repetitions. -/
def ordered (places : List (List String)) : List (List String) :=
  places.foldr insertOrdered []

/-- Compiles patterns up to the first that is not one. -/
def compilePatterns : List String → Except Failure (List Pattern)
  | [] => .ok []
  | text :: texts =>
    match Pattern.ofText text with
    | .ok pattern => do .ok (pattern :: (← compilePatterns texts))
    | .error fault => .error (.badPattern text fault)

def enters (includeHidden : Bool) (patterns : List Pattern) (name : String) : Bool :=
  (includeHidden || !name.startsWith ".") && !patterns.any fun p => p.accepts name

def Directory.wanted (d : Directory) (s : Selection) (patterns : List Pattern) :
    List (List String) :=
  ordered (((d.filesWithin (enters s.includeHidden patterns)).map Prod.fst).filter fun place =>
    place.getLast?.any (isWanted s.extensions))

def FileSystem.candidates (fs : FileSystem) (root : String) (s : Selection) :
    Except Failure (List Location) :=
  match fs.locate ⟨root, []⟩ with
  | .error _ => .error (.missingRoot root)
  | .ok place =>
    match fs.tree.get? place with
    | some (.folder inner) => do
      let patterns ← compilePatterns s.ignore
      .ok ((inner.wanted s patterns).map fun below => ⟨root, below⟩)
    | _ => .ok [⟨root, []⟩]

end HeaderNotes

/-!
Locations of files: the path text of a starting point, as it was given, and the names that lead
on from there.
-/

namespace HeaderNotes

structure Location where
  root : String
  below : List String := []
deriving DecidableEq, Repr

namespace Location

def join (path name : String) : String :=
  if path.isEmpty || path.endsWith "/" then path ++ name else path ++ "/" ++ name

def text (l : Location) : String :=
  l.below.foldl join l.root

def cutSlashes : List Char → List (List Char)
  | [] => [[]]
  | c :: cs =>
    if c = '/' then
      [] :: cutSlashes cs
    else
      match cutSlashes cs with
      | [] => [[c]]
      | part :: parts => (c :: part) :: parts

/-- The parts of the starting point between its slashes. -/
def rootParts (l : Location) : List String :=
  (cutSlashes l.root.toList).map String.ofList

end Location
end HeaderNotes

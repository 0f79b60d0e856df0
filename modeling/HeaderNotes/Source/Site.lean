import HeaderNotes.Header.Basic
import HeaderNotes.Source.Lookbehind

/-!
The headers of a file and whether they are documented. Nothing is changed, so every decision
looks at the lines as they are.
-/

namespace HeaderNotes.Source

structure Site where
  /-- The number of the line, counted from one. -/
  line : Nat
  header : Header
  documented : Bool
deriving DecidableEq, Repr

/-- The sites among `lines`, which follow the lines `above`, nearest first. -/
def sitesFrom (above : List String) : List String → List Site
  | [] => []
  | line :: rest =>
    match Header.ofLine? line with
    | some header =>
      { line := above.length + 1, header, documented := documentedBelow above } ::
        sitesFrom (line :: above) rest
    | none => sitesFrom (line :: above) rest

def sites (lines : List String) : List Site :=
  sitesFrom [] lines

end HeaderNotes.Source

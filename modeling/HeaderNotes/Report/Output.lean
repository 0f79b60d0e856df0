/-!
What a command prints: text on the standard output and text on the error output, without colours.
How the two interleave is left open.
-/

namespace HeaderNotes

structure Output where
  out : String := ""
  err : String := ""
deriving DecidableEq, Repr, Inhabited

namespace Output

def line (text : String) : Output :=
  { out := text ++ "\n" }

def errorLine (text : String) : Output :=
  { err := text ++ "\n" }

/-- One text after the other, on each output apart. -/
def append (a b : Output) : Output :=
  { out := a.out ++ b.out, err := a.err ++ b.err }

instance : Append Output := ⟨append⟩

def concat (parts : List Output) : Output :=
  parts.foldl append {}

end Output
end HeaderNotes

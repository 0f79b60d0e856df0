/-!
Lines of text. A line keeps its line feed, so that joining the lines of a text gives the text
back.
-/

namespace HeaderNotes.Text

/-- Puts a character in front of some lines. A line feed makes a line of its own, anything else
belongs to the first line. -/
def consLine (c : Char) (lines : List (List Char)) : List (List Char) :=
  if c = '\n' then
    [c] :: lines
  else
    match lines with
    | [] => [[c]]
    | line :: lines => (c :: line) :: lines

/-- Cuts a text after every line feed. -/
def cutLines (cs : List Char) : List (List Char) :=
  cs.foldr consLine []

/-- The lines of a text, each with its terminator. The empty text has no line. -/
def lines (text : String) : List String :=
  (cutLines text.toList).map String.ofList

def unlines (lines : List String) : String :=
  String.ofList (lines.flatMap String.toList)

@[simp] theorem cutLines_nil : cutLines [] = [] := rfl

theorem cutLines_cons (c : Char) (cs : List Char) :
    cutLines (c :: cs) = consLine c (cutLines cs) := rfl

theorem flatten_consLine (c : Char) (lines : List (List Char)) :
    (consLine c lines).flatten = c :: lines.flatten := by
  unfold consLine
  split
  · rfl
  · cases lines <;> rfl

theorem flatten_cutLines (cs : List Char) : (cutLines cs).flatten = cs := by
  induction cs with
  | nil => rfl
  | cons c cs ih =>
      rw [cutLines_cons, flatten_consLine, ih]

theorem unlines_lines (text : String) : unlines (lines text) = text := by
  simp [unlines, lines, List.flatMap_map, List.flatMap_id', flatten_cutLines]

@[simp] theorem toList_unlines (ls : List String) :
    (unlines ls).toList = ls.flatMap String.toList := by
  simp [unlines]

end HeaderNotes.Text

import HeaderNotes.Text.Blank

/-!
Whether the lines above a place end in a comment. The search steps over a few blank lines and
looks at the first line that is not blank.
-/

namespace HeaderNotes.Source

open HeaderNotes.Text

/-- How many blank lines may stand between a comment and what it documents. -/
def maxBlankLines : Nat := 5

/-- Whether a line starts, behind its blanks, like a comment or the inside of one. -/
def startsComment (line : String) : Bool :=
  match skipBlanks line.toList with
  | '*' :: _ => true
  | '/' :: '*' :: _ => true
  | '/' :: '/' :: _ => true
  | _ => false

/-- Whether a comment is found among the lines above, nearest first, by stepping over at most
`blanks` blank ones. -/
def commentWithin : Nat → List String → Bool
  | _, [] => false
  | blanks, line :: above =>
    if allBlank line then
      match blanks with
      | 0 => false
      | blanks + 1 => commentWithin blanks above
    else
      startsComment line

/-- Whether the line below `above`, given nearest first, is documented. -/
def documentedBelow (above : List String) : Bool :=
  commentWithin maxBlankLines above

/-- Whether a line that follows these lines is documented. -/
def documentedAfter (preceding : List String) : Bool :=
  documentedBelow preceding.reverse

end HeaderNotes.Source

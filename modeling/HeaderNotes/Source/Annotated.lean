import HeaderNotes.Note.Block
import HeaderNotes.Source.Lookbehind
import HeaderNotes.Tally
import HeaderNotes.Text.Lines

/-!
Inserting notes. A file is walked once; a header that is not documented by what has been written
above it gets a note. The result keeps apart which lines were there and which were inserted, so
that the text before and after, the number of notes and their kinds are all views of it.
-/

namespace HeaderNotes.Source

open HeaderNotes.Text

inductive Piece
  /-- A line of the file itself. -/
  | kept (line : String)
  /-- The lines of the note inserted above a header. -/
  | note (header : Header) (lines : List String)
deriving DecidableEq, Repr

def Piece.lines : Piece → List String
  | .kept line => [line]
  | .note _ lines => lines

/-- The line that a piece takes from the file. -/
def Piece.kept? : Piece → Option String
  | .kept line => some line
  | .note _ _ => none

def Piece.kind? : Piece → Option Kind
  | .kept _ => none
  | .note header _ => some header.kind

structure Annotated where
  pieces : List Piece
deriving DecidableEq, Repr

namespace Annotated

def lines (a : Annotated) : List String :=
  a.pieces.flatMap Piece.lines

def keptLines (a : Annotated) : List String :=
  a.pieces.filterMap Piece.kept?

/-- The kinds of the headers that got a note, in order. -/
def kinds (a : Annotated) : List Kind :=
  a.pieces.filterMap Piece.kind?

def added (a : Annotated) : Nat :=
  a.kinds.length

def byKind (a : Annotated) : Tally :=
  Tally.ofKinds a.kinds

def isChanged (a : Annotated) : Bool :=
  a.added > 0

/-- The text without the notes. -/
def before (a : Annotated) : String :=
  unlines a.keptLines

def content (a : Annotated) : String :=
  unlines a.lines

end Annotated

def endsInCrLf (line : String) : Bool :=
  match line.toList.reverse with
  | '\n' :: '\r' :: _ => true
  | _ => false

def endsInLf (line : String) : Bool :=
  line.toList.getLast? == some '\n'

/-- The terminator for a note above a line: that of the line itself. A line without one takes
that of the line before it. -/
def terminator (line : String) (previous : Option String) : String :=
  if endsInCrLf line then "\r\n"
  else if endsInLf line then "\n"
  else if previous.any endsInCrLf then "\r\n"
  else "\n"

/-- The note that a line gets below the lines written so far, nearest first. -/
def noteFor? (t : Template) (written : List String) (line : String) :
    Option (Header × List String) :=
  match Header.ofLine? line with
  | some header =>
    if documentedBelow written then
      none
    else
      some (header, (Note.ofHeader header).lines t (terminator line written.head?))
  | none => none

/-- Annotates `lines` below the lines written so far, nearest first. -/
def piecesFrom (t : Template) (written : List String) : List String → List Piece
  | [] => []
  | line :: rest =>
    match noteFor? t written line with
    | some (header, note) =>
      .note header note :: .kept line :: piecesFrom t (line :: (note.reverse ++ written)) rest
    | none => .kept line :: piecesFrom t (line :: written) rest

def annotate (t : Template) (lines : List String) : Annotated :=
  ⟨piecesFrom t [] lines⟩

theorem filterMap_kept?_piecesFrom (t : Template) (written lines : List String) :
    (piecesFrom t written lines).filterMap Piece.kept? = lines := by
  induction lines generalizing written with
  | nil => rfl
  | cons line rest ih =>
      simp only [piecesFrom]
      split <;> simp [List.filterMap_cons, Piece.kept?, ih]

theorem keptLines_annotate (t : Template) (lines : List String) :
    (annotate t lines).keptLines = lines :=
  filterMap_kept?_piecesFrom t [] lines

end HeaderNotes.Source

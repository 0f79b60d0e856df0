import HeaderNotes.Header.Basic
import HeaderNotes.Note.Locale

/-!
The comment block that is inserted above a header: five lines, indented like the header and
ended by one and the same terminator.
-/

namespace HeaderNotes

structure Template where
  locale : Locale := .english
  /-- Replaces the locale's own placeholder for missing parameters. -/
  placeholder? : Option String := none
deriving DecidableEq, Repr, Inhabited

def Template.placeholder (t : Template) : String :=
  t.placeholder?.getD t.locale.placeholder

structure Note where
  indentation : String
  name : String
  parameters : String
deriving DecidableEq, Repr

namespace Note

def ofHeader (h : Header) : Note :=
  { indentation := h.indentation, name := h.name, parameters := h.parameters }

/-- The parameters as the note shows them: trimmed, or the placeholder. -/
def shownParameters (note : Note) (t : Template) : String :=
  let parameters := Text.trim note.parameters
  if parameters.isEmpty then t.placeholder else parameters

/-- The five lines of a note, without indentation and terminator. -/
def body (note : Note) (t : Template) : List String :=
  ["/**",
    " * " ++ t.locale.summary note.name,
    " * " ++ t.locale.inputs ++ ": " ++ note.shownParameters t,
    " * " ++ t.locale.outputs,
    " */"]

def lines (note : Note) (t : Template) (terminator : String) : List String :=
  (note.body t).map fun line => note.indentation ++ line ++ terminator

theorem length_lines (note : Note) (t : Template) (terminator : String) :
    (note.lines t terminator).length = 5 := by
  simp [lines, body]

end Note
end HeaderNotes

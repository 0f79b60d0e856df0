import HeaderNotes.Note.Block

/-!
Settings: which files a run looks at, how its notes are worded and how many workers it may use.
Every part has a default, and what is given on the command line is layered on top.
-/

namespace HeaderNotes

structure Selection where
  /-- The extensions of the files to take, without the dot. -/
  extensions : List String := ["js"]
  /-- Patterns for the names of directories that are not entered. -/
  ignore : List String := ["node_modules", ".git", "build", "dist", "__pycache__"]
  /-- Whether directories are entered whose name starts with a dot. -/
  includeHidden : Bool := false
deriving DecidableEq, Repr, Inhabited

structure Settings extends Selection where
  note : Template := {}
  /-- How many files may be worked on at a time; all processors if it is not given. -/
  workers : Option UInt64 := none
deriving DecidableEq, Repr, Inhabited

/-- What the command line says about the files to look at. -/
structure SelectionChanges where
  extensions : List String := []
  ignore : List String := []
  includeHidden : Bool := false
deriving DecidableEq, Repr, Inhabited

structure SettingsChanges extends SelectionChanges where
  locale : Option Locale := none
  placeholder : Option String := none
  workers : Option UInt64 := none
deriving DecidableEq, Repr, Inhabited

/-- Given extensions replace the configured ones, while given patterns are added to them. -/
def Selection.change (s : Selection) (c : SelectionChanges) : Selection :=
  { extensions := if c.extensions.isEmpty then s.extensions else c.extensions
    ignore := s.ignore ++ c.ignore
    includeHidden := s.includeHidden || c.includeHidden }

def Settings.change (s : Settings) (c : SettingsChanges) : Settings :=
  { toSelection := s.toSelection.change c.toSelectionChanges
    note :=
      { locale := c.locale.getD s.note.locale
        placeholder? := c.placeholder <|> s.note.placeholder? }
    workers := c.workers <|> s.workers }

end HeaderNotes

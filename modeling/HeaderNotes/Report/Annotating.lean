import HeaderNotes.Batch.Outcome
import HeaderNotes.Json.Value
import HeaderNotes.Report.Diff
import HeaderNotes.Report.Output
import HeaderNotes.Text.Padding

/-!
Reports on the annotation of files: for people, as a document, or as a diff.
-/

namespace HeaderNotes

inductive Format
  | text
  | json
  | diff
deriving DecidableEq, Repr, Inhabited

namespace Report

open Json (Value)

/-- The line on one file. Unchanged files are only mentioned if everything is. -/
def outcomeLine (verbose : Bool) (o : Outcome) : Output :=
  let path := o.file.text
  match o.status with
  | .annotated n => .line ("✓ +" ++ toString n ++ " " ++ path)
  | .pending n => .line ("~ +" ++ toString n ++ " " ++ path)
  | .readFailed error => .errorLine ("⚠ Skipped " ++ path ++ ": " ++ error)
  | .writeFailed _ error => .errorLine ("✗ Failed to write " ++ path ++ ": " ++ error)
  | .unchanged => if verbose then .line ("  · " ++ path) else {}

/-- The kinds that occur, the most frequent first. -/
def byFrequency (t : Tally) : List (Kind × Nat) :=
  t.toList.mergeSort fun a b => a.2 ≥ b.2

def kindLines (t : Tally) : List String :=
  if t.isEmpty then
    []
  else
    ["", "By Header Kind", "--------------"]
      ++ (byFrequency t).map fun (kind, n) =>
        "  " ++ Text.padRight 22 kind.name ++ " " ++ toString n

def failureLines (s : Summary) : List String :=
  (if s.readFailures.isEmpty then []
    else ["", "⚠ " ++ toString s.readFailures.length ++ " file(s) could not be read"])
  ++ (if s.anyUnwritten then
      ["", "✗ " ++ toString s.writeFailures.length ++ " file(s) were annotated but NOT written:"]
        ++ s.writeFailures.map fun f => "  " ++ f.file.text ++ " (" ++ f.error ++ ")"
    else [])

def summaryLines (s : Summary) : List String :=
  ["", "Annotation Summary", "==================",
    "Files processed:     " ++ toString s.filesProcessed,
    "Files changed:       " ++ toString s.filesChanged,
    "Annotations added:   " ++ toString s.notesAdded]
  ++ kindLines s.byKind ++ failureLines s

def text (verbose check : Bool) (outcomes : List Outcome) (s : Summary) : Output :=
  Output.concat (outcomes.map (outcomeLine verbose))
    ++ Output.concat ((summaryLines s).map Output.line)
    ++ if !s.applied && s.notesAdded > 0 && !check then
        Output.concat [.errorLine "", .errorLine "Dry run: drop --dry-run to write changes"]
      else {}

/-- Counts as a document, ordered by the names of the kinds. -/
def tallyJson (t : Tally) : Value :=
  let entries := t.toList.map fun (kind, n) => (kind.name, n)
  .object ((entries.mergeSort fun a b => a.1 ≤ b.1).map fun (name, n) => (name, .number n))

def failureJson (f : FailedFile) : Value :=
  .object [("error", .text f.error), ("path", .text f.file.text)]

def addedField (status : Status) : List (String × Value) :=
  match status with
  | .annotated n | .pending n | .writeFailed n _ => [("added", .number n)]
  | .unchanged | .readFailed _ => []

def errorField (status : Status) : List (String × Value) :=
  match status with
  | .readFailed error | .writeFailed _ error => [("error", .text error)]
  | .unchanged | .annotated _ | .pending _ => []

def outcomeJson (o : Outcome) : Value :=
  .object (addedField o.status
    ++ (if o.byKind.isEmpty then [] else [("by_kind", tallyJson o.byKind)])
    ++ errorField o.status
    ++ [("path", .text o.file.text), ("status", .text o.status.name)])

def summaryJson (s : Summary) : Value :=
  .object [("annotations_added", .number s.notesAdded), ("applied", .bool s.applied),
    ("by_kind", tallyJson s.byKind), ("files_changed", .number s.filesChanged),
    ("files_processed", .number s.filesProcessed),
    ("read_failures", .list (s.readFailures.map failureJson)),
    ("write_failures", .list (s.writeFailures.map failureJson))]

/-- The report as a document. Unchanged files are left out. -/
def json (outcomes : List Outcome) (s : Summary) : Output :=
  let told := outcomes.filter fun o => o.status != .unchanged
  .line (Value.object [("files", .list (told.map outcomeJson)), ("summary", summaryJson s)]).pretty

def diff (outcomes : List Outcome) : Output :=
  { out := String.join (outcomes.filterMap fun o =>
      o.preview.map fun a => Diff.text o.file.text a.before a.content) }

def annotating (format : Format) (verbose check : Bool) (outcomes : List Outcome) (s : Summary) :
    Output :=
  match format with
  | .text => text verbose check outcomes s
  | .json => json outcomes s
  | .diff => diff outcomes

end Report
end HeaderNotes

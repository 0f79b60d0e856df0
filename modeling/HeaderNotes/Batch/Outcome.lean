import HeaderNotes.Files.Location
import HeaderNotes.Source.Annotated

/-!
What became of each file of a run, and the totals over all of them.
-/

namespace HeaderNotes

inductive Status
  /-- Every header was documented, or there was none. -/
  | unchanged
  /-- Notes were inserted and written back. -/
  | annotated (added : Nat)
  /-- Notes would be inserted. -/
  | pending (added : Nat)
  | readFailed (error : String)
  /-- Notes were found missing, but the file could not be written. -/
  | writeFailed (added : Nat) (error : String)
deriving DecidableEq, Repr

/-- The notes that were or would be inserted. -/
def Status.added : Status → Nat
  | annotated n | pending n | writeFailed n _ => n
  | unchanged | readFailed _ => 0

def Status.name : Status → String
  | unchanged => "unchanged"
  | annotated _ => "annotated"
  | pending _ => "pending"
  | readFailed _ => "read-failed"
  | writeFailed _ _ => "write-failed"

structure Outcome where
  file : Location
  status : Status
  byKind : Tally := .empty
  /-- The annotated file, if it was asked for. -/
  preview : Option Source.Annotated := none

def Outcome.added (o : Outcome) : Nat :=
  o.status.added

structure FailedFile where
  file : Location
  error : String
deriving DecidableEq, Repr

structure Summary where
  filesProcessed : Nat := 0
  filesChanged : Nat := 0
  notesAdded : Nat := 0
  /-- Whether the run was one that writes, even if there was nothing to write or writing failed. -/
  applied : Bool
  byKind : Tally := .empty
  readFailures : List FailedFile := []
  writeFailures : List FailedFile := []

namespace Summary

def count (s : Summary) (o : Outcome) : Summary :=
  let changed := o.added > 0
  { filesProcessed := s.filesProcessed + 1
    filesChanged := if changed then s.filesChanged + 1 else s.filesChanged
    notesAdded := s.notesAdded + o.added
    applied := s.applied
    byKind := if changed then s.byKind.merge o.byKind else s.byKind
    readFailures :=
      match o.status with
      | .readFailed error => s.readFailures ++ [⟨o.file, error⟩]
      | _ => s.readFailures
    writeFailures :=
      match o.status with
      | .writeFailed _ error => s.writeFailures ++ [⟨o.file, error⟩]
      | _ => s.writeFailures }

def ofOutcomes (outcomes : List Outcome) (applied : Bool) : Summary :=
  outcomes.foldl count { applied }

def anyUnwritten (s : Summary) : Bool :=
  !s.writeFailures.isEmpty

/-- The exit status after a run: failed writes count as a failure, and so do missing notes if
the run was a check. -/
def exitStatus (s : Summary) (check : Bool) : Nat :=
  if s.anyUnwritten || (check && s.notesAdded > 0) then 1 else 0

end Summary
end HeaderNotes

import HeaderNotes.Files.Cause
import HeaderNotes.Files.Location
import HeaderNotes.Files.Pattern

/-!
The failures of the library, as causes. The wording of each is given in one place.
-/

namespace HeaderNotes

inductive Failure
  | missingRoot (root : String)
  | unreadable (file : Location) (cause : Cause)
  | unwritable (file : Location) (cause : Cause)
  | badPattern (pattern : String) (fault : Pattern.Fault)
  | badSettings (file : Location) (message : String)
  | access (cause : Cause)
deriving DecidableEq, Repr

def Failure.message : Failure → String
  | missingRoot root => "Root path does not exist: " ++ root
  | unreadable file cause => "Failed to read " ++ file.text ++ ": " ++ cause.message
  | unwritable file cause => "Failed to write " ++ file.text ++ ": " ++ cause.message
  | badPattern pattern fault => "Invalid ignore pattern '" ++ pattern ++ "': " ++ fault.message
  | badSettings file message => "Config error: " ++ file.text ++ ": " ++ message
  | access cause => "IO error: " ++ cause.message

/-- What lies behind a failure, where that is reported apart from it. -/
def Failure.cause? : Failure → Option Cause
  | access cause => some cause
  | _ => none

end HeaderNotes

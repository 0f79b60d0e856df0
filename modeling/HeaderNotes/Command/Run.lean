import HeaderNotes.Command.Invocation
import HeaderNotes.Report.Listing
import HeaderNotes.Settings.Store

/-!
The commands. Each takes a file system and gives an exit status, what it prints, and the file
system as it leaves it.
-/

namespace HeaderNotes.Command

def environmentVariable : String := "FNNOTE_CONFIG"

def versionText : String := "fnnote 0.3.0"

def usageText : String :=
  "usage: fnnote [-c FILE] [-v] (annotate | list | init) [OPTION]... [PATH]"

structure Exit where
  status : Nat
  output : Output
  fileSystem : FileSystem

/-- Ends a command with a message. What lies behind a failure is printed apart from it. -/
def failWith (output : Output) (message : String) (cause : Option Cause)
    (fs : FileSystem) : Exit :=
  let lines := ["Error: " ++ message]
    ++ (cause.map fun c => ["", "Caused by:", "    " ++ c.message]).getD []
  { status := 1
    output := output ++ Output.concat (lines.map Output.errorLine)
    fileSystem := fs }

def fail (output : Output) (f : Failure) (fs : FileSystem) : Exit :=
  failWith output f.message f.cause? fs

/-- Whether notes are written back: not in a dry run, a check or a diff. -/
def AnnotateTask.mode (o : AnnotateTask) : Mode :=
  if o.dryRun || o.check || o.format == some .diff then .dryRun else .apply

def AnnotateTask.batch (o : AnnotateTask) (s : Settings) : Batch :=
  { template := s.note, mode := o.mode, previews := o.format == some .diff }

def announcement (verbose : Bool) (path : String) (s : Settings) : Output :=
  if verbose then
    .errorLine ("→ Annotating " ++ path ++ " (" ++ ", ".intercalate s.extensions ++ ")")
  else
    {}

def checkVerdict (check : Bool) (s : Summary) : Output :=
  if check && s.notesAdded > 0 then
    Output.concat ([ "", "✗ " ++ toString s.notesAdded ++ " function(s) in "
      ++ toString s.filesChanged ++ " file(s) have no note"].map Output.errorLine)
  else
    {}

def annotate (o : AnnotateTask) (verbose : Bool) (settings : Settings) (fs : FileSystem) :
    Exit :=
  let path := o.path.getD "."
  let settings := settings.change o.changes
  let announced := announcement verbose path settings
  match (o.batch settings).annotateTree fs path settings.toSelection with
  | .error f => fail announced f fs
  | .ok result =>
    let report :=
      Report.annotating (o.format.getD .text) verbose o.check result.outcomes result.summary
    { status := result.summary.exitStatus o.check
      output := announced ++ report ++ checkVerdict o.check result.summary
      fileSystem := result.fileSystem }

def list (o : ListTask) (settings : Settings) (fs : FileSystem) : Exit :=
  let selection := settings.toSelection.change o.changes
  match fs.collectSites (o.path.getD ".") selection o.missingOnly with
  | .error f => fail {} f fs
  | .ok files => { status := 0, output := Report.listing o.json files, fileSystem := fs }

/-- Writes a settings file that holds the defaults. -/
def init (o : InitTask) (config : Option String) (fs : FileSystem) : Exit :=
  let path := config.getD Settings.defaultFile
  if fs.contains ⟨path, []⟩ && !o.force then
    failWith {} (path ++ " already exists (use --force to overwrite)") none fs
  else
    match fs.saveSettings {} ⟨path, []⟩ with
    | .error f => fail {} f fs
    | .ok fs => { status := 0, output := .line ("✓ Created " ++ path), fileSystem := fs }

def withSettings (config : Option String) (fs : FileSystem) (run : Settings → Exit) : Exit :=
  match fs.resolveSettings config "." with
  | .error f => fail {} f fs
  | .ok settings => run settings

def Invocation.run (i : Invocation) (fs : FileSystem) : Exit :=
  match i.task with
  | .annotate o => withSettings i.config fs fun s => annotate o i.verbose s fs
  | .list o => withSettings i.config fs fun s => list o s fs
  | .init o => init o i.config fs

def run (args : List String) (environment : Option String) (fs : FileSystem) : Exit :=
  match Invocation.ofArguments args environment with
  | .ok i => i.run fs
  | .error .version => { status := 0, output := .line versionText, fileSystem := fs }
  | .error .usage => { status := 2, output := .errorLine usageText, fileSystem := fs }

end HeaderNotes.Command

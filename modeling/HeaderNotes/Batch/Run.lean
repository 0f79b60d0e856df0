import HeaderNotes.Batch.Outcome
import HeaderNotes.Files.Candidates
import HeaderNotes.Source.Site

/-!
Annotating the files of a file system. For each file it is first planned, from its content alone,
what is to happen; then the plan is carried out. Nothing that goes wrong with one file keeps the
others from being worked on.

Here the files are worked on in order. That workers who take turns in any order leave the same is
proved about the single steps of the work, so the number of workers has no place in a run. Progress
bars and logs are left out.
-/

namespace HeaderNotes

inductive Mode
  | apply
  | dryRun
deriving DecidableEq, Repr, Inhabited

/-- A way of replacing a file by new lines: it gives the changed file system, or the
cause of a failure. -/
abbrev Writer := FileSystem → Location → List String → Except Cause FileSystem

structure Batch where
  template : Template := {}
  mode : Mode := .apply
  /-- Whether outcomes keep the annotated file. -/
  previews : Bool := false
  writer : Writer := FileSystem.writeLines

inductive Plan
  | skip (error : String)
  | leave
  | insert (annotated : Source.Annotated)

def FileSystem.plan (fs : FileSystem) (t : Template) (file : Location) : Plan :=
  match fs.readLines file with
  | .error cause => .skip (Failure.unreadable file cause).message
  | .ok lines =>
    let annotated := Source.annotate t lines
    if annotated.isChanged then .insert annotated else .leave

namespace Batch

def commit (b : Batch) (file : Location) (plan : Plan) (fs : FileSystem) :
    Outcome × FileSystem :=
  match plan with
  | .skip error => ({ file, status := .readFailed error }, fs)
  | .leave => ({ file, status := .unchanged }, fs)
  | .insert annotated =>
    let outcome (status : Status) : Outcome :=
      { file, status, byKind := annotated.byKind
        preview := if b.previews then some annotated else none }
    match b.mode with
    | .dryRun => (outcome (.pending annotated.added), fs)
    | .apply =>
      match b.writer fs file annotated.lines with
      | .ok fs => (outcome (.annotated annotated.added), fs)
      | .error cause =>
        let error := (Failure.unwritable file cause).message
        (outcome (.writeFailed annotated.added error), fs)

def annotateFile (b : Batch) (fs : FileSystem) (file : Location) : Outcome × FileSystem :=
  b.commit file (fs.plan b.template file) fs

def annotateFiles (b : Batch) : FileSystem → List Location → List Outcome × FileSystem
  | fs, [] => ([], fs)
  | fs, file :: files =>
    let (outcome, fs) := b.annotateFile fs file
    let (outcomes, fs) := b.annotateFiles fs files
    (outcome :: outcomes, fs)

structure Result where
  outcomes : List Outcome
  summary : Summary
  fileSystem : FileSystem

def annotateTree (b : Batch) (fs : FileSystem) (root : String) (s : Selection) :
    Except Failure Result := do
  let files ← fs.candidates root s
  let (outcomes, fileSystem) := b.annotateFiles fs files
  let summary := Summary.ofOutcomes outcomes (b.mode == .apply)
  .ok { outcomes, summary, fileSystem }

end Batch

structure FileSites where
  file : Location
  sites : List Source.Site
deriving DecidableEq, Repr

namespace FileSystem

/-- The headers of a file that are asked for; none if it cannot be read. -/
def sitesOf (fs : FileSystem) (missingOnly : Bool) (file : Location) : List Source.Site :=
  match fs.readLines file with
  | .ok lines => (Source.sites lines).filter fun site => !(missingOnly && site.documented)
  | .error _ => []

/-- The headers of all files to look at from a starting point. Files without any are left out. -/
def collectSites (fs : FileSystem) (root : String) (s : Selection) (missingOnly : Bool) :
    Except Failure (List FileSites) := do
  let files ← fs.candidates root s
  let found := files.map fun file => ({ file, sites := fs.sitesOf missingOnly file } : FileSites)
  .ok (found.filter fun f => !f.sites.isEmpty)

end FileSystem
end HeaderNotes

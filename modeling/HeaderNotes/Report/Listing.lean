import HeaderNotes.Batch.Run
import HeaderNotes.Json.Value
import HeaderNotes.Report.Output
import HeaderNotes.Text.Padding

/-!
Reports on the headers of a tree: for people or as a document.
-/

namespace HeaderNotes.Report

open Json (Value)

def siteLine (s : Source.Site) : String :=
  "  " ++ Text.padLeft 5 (toString s.line) ++ "  " ++ Text.padRight 22 s.header.kind.name ++ " "
    ++ s.header.name ++ "(" ++ Text.trim s.header.parameters ++ ")  "
    ++ if s.documented then "documented" else "missing"

def fileLines (f : FileSites) : List String :=
  f.file.text :: f.sites.map siteLine

def countLine (files : List FileSites) : String :=
  let sites := files.flatMap FileSites.sites
  let missing := sites.filter fun s => !s.documented
  toString sites.length ++ " headers, " ++ toString missing.length ++ " without a note"

def siteJson (s : Source.Site) : Value :=
  .object [("line", .number s.line), ("indentation", .text s.header.indentation),
    ("name", .text s.header.name), ("parameters", .text s.header.parameters),
    ("kind", .text s.header.kind.name), ("documented", .bool s.documented)]

def fileJson (f : FileSites) : Value :=
  .object [("path", .text f.file.text), ("headers", .list (f.sites.map siteJson))]

def listing (asJson : Bool) (files : List FileSites) : Output :=
  if asJson then
    .line (Value.list (files.map fileJson)).pretty
  else
    Output.concat ((files.flatMap fileLines ++ ["", countLine files]).map Output.line)

end HeaderNotes.Report

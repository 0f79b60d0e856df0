import HeaderNotes.Failure
import HeaderNotes.Files.FileSystem
import HeaderNotes.Settings.Printer
import HeaderNotes.Settings.Reader.Document

/-!
Settings files in a file system.
-/

namespace HeaderNotes

/-- The name of the settings file that is looked for when none is given. -/
def Settings.defaultFile : String := ".fnnote.json"

namespace FileSystem

def loadSettings (fs : FileSystem) (l : Location) : Except Failure Settings :=
  match fs.read l with
  | .error e => .error (.access (.system e))
  | .ok content =>
    match String.fromUTF8? content with
    | none => .error (.access (.other "stream did not contain valid UTF-8"))
    | some text => (Settings.ofText text).mapError (.badSettings l)

def saveSettings (fs : FileSystem) (s : Settings) (l : Location) : Except Failure FileSystem :=
  (fs.write l s.text.toUTF8).mapError fun e => .access (.system e)

/-- Reads the settings of a given file, or those of the settings file in `folder` if there is
one, or takes the defaults. -/
def resolveSettings (fs : FileSystem) (given : Option String) (folder : String) :
    Except Failure Settings :=
  match given with
  | some path => fs.loadSettings ⟨path, []⟩
  | none =>
    let l : Location := ⟨folder, [Settings.defaultFile]⟩
    if fs.isFile l then fs.loadSettings l else .ok {}

end FileSystem
end HeaderNotes

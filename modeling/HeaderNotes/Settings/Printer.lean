import HeaderNotes.Json.Value
import HeaderNotes.Settings.Basic

/-!
The written form of settings. Options that are not set are left out.
-/

namespace HeaderNotes

open Json (Value)

def Json.texts (items : List String) : Value :=
  .list (items.map Value.text)

def Template.json (t : Template) : Value :=
  .object ([("locale", .text t.locale.name)]
    ++ (t.placeholder?.map fun p => ("empty_placeholder", Value.text p)).toList)

def Settings.json (s : Settings) : Value :=
  .object ([("extensions", Json.texts s.extensions), ("ignore", Json.texts s.ignore),
      ("include_hidden", .bool s.includeHidden), ("note", s.note.json)]
    ++ (s.workers.map fun n => ("workers", Value.number n.toNat)).toList)

def Settings.text (s : Settings) : String :=
  s.json.pretty ++ "\n"

end HeaderNotes

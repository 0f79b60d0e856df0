/-!
Columns of text, filled up with spaces to a width in characters. A text that is already wide enough
is left as it is.
-/

namespace HeaderNotes.Text

def padRight (width : Nat) (s : String) : String :=
  s ++ String.ofList (List.replicate (width - s.length) ' ')

def padLeft (width : Nat) (s : String) : String :=
  String.ofList (List.replicate (width - s.length) ' ') ++ s

end HeaderNotes.Text

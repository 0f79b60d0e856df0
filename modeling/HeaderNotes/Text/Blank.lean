import HeaderNotes.Text.Ranges

/-!
Blank characters and trimming. Blank is wider than the ASCII spaces: it includes the next-line
control, the no-break spaces and the typographic spaces, but no zero-width character.
-/

namespace HeaderNotes.Text

def blankRanges : Ranges :=
  [(0x9, 0xD), (0x20, 0x20), (0x85, 0x85), (0xA0, 0xA0), (0x1680, 0x1680), (0x2000, 0x200A),
    (0x2028, 0x2029), (0x202F, 0x202F), (0x205F, 0x205F), (0x3000, 0x3000)]

def isBlank (c : Char) : Bool :=
  blankRanges.contains c.toNat

def leadingBlanks (cs : List Char) : List Char :=
  cs.takeWhile isBlank

def skipBlanks (cs : List Char) : List Char :=
  cs.dropWhile isBlank

def trim (s : String) : String :=
  String.ofList (skipBlanks (skipBlanks s.toList).reverse).reverse

/-- A text made of blanks only, the empty text included. -/
def allBlank (s : String) : Bool :=
  s.toList.all isBlank

theorem leadingBlanks_append_skipBlanks (cs : List Char) :
    leadingBlanks cs ++ skipBlanks cs = cs :=
  List.takeWhile_append_dropWhile

theorem skipBlanks_append {blanks : List Char} (h : ∀ c ∈ blanks, isBlank c) (cs : List Char) :
    skipBlanks (blanks ++ cs) = skipBlanks cs :=
  List.dropWhile_append_of_pos h

theorem isBlank_of_allBlank {s : String} (h : allBlank s) : ∀ c ∈ s.toList, isBlank c := by
  simpa [allBlank] using h

end HeaderNotes.Text

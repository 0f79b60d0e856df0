/-!
Where a byte sequence stops being UTF-8. The fault is found at the first byte that belongs to no
complete character; its length is that of the longest part that could still have become one.
-/

namespace HeaderNotes.Text.Utf8

/-- The first fault of a byte sequence: the number of bytes before it, and how many bytes it
takes. No length means that the input ends inside a character that was valid so far. -/
structure Fault where
  index : Nat
  length : Option Nat
deriving DecidableEq, Repr

/-- The bounds on each byte that has to follow a lead byte; none if the byte leads nothing. -/
def continuations (lead : UInt8) : Option (List (UInt8 × UInt8)) :=
  if lead < 0x80 then some []
  else if 0xC2 ≤ lead ∧ lead ≤ 0xDF then some [(0x80, 0xBF)]
  else if lead = 0xE0 then some [(0xA0, 0xBF), (0x80, 0xBF)]
  else if lead = 0xED then some [(0x80, 0x9F), (0x80, 0xBF)]
  else if 0xE1 ≤ lead ∧ lead ≤ 0xEF then some [(0x80, 0xBF), (0x80, 0xBF)]
  else if lead = 0xF0 then some [(0x90, 0xBF), (0x80, 0xBF), (0x80, 0xBF)]
  else if 0xF1 ≤ lead ∧ lead ≤ 0xF3 then some [(0x80, 0xBF), (0x80, 0xBF), (0x80, 0xBF)]
  else if lead = 0xF4 then some [(0x80, 0x8F), (0x80, 0xBF), (0x80, 0xBF)]
  else none

/-- Reads on with `due`, the bounds on the bytes that the current character still needs. The
character started at `start` and `seen` of its bytes have been read. -/
def faultFrom (start seen : Nat) : List (UInt8 × UInt8) → List UInt8 → Option Fault
  | [], [] => none
  | _ :: _, [] => some ⟨start, none⟩
  | (low, high) :: due, byte :: rest =>
    if low ≤ byte ∧ byte ≤ high then
      faultFrom start (seen + 1) due rest
    else
      some ⟨start, some seen⟩
  | [], lead :: rest =>
    match continuations lead with
    | some due => faultFrom (start + seen) 1 due rest
    | none => some ⟨start + seen, some 1⟩

def fault? (bytes : List UInt8) : Option Fault :=
  faultFrom 0 0 [] bytes

def Fault.message (fault : Fault) : String :=
  match fault.length with
  | some n =>
    "invalid utf-8 sequence of " ++ toString n ++ " bytes from index " ++ toString fault.index
  | none => "incomplete utf-8 byte sequence from index " ++ toString fault.index

example : fault? [0x61, 0xE2, 0x82, 0xAC] = none := by decide
example : fault? [0x61, 0xE2, 0x82] = some ⟨1, none⟩ := by decide
example : fault? [0x61, 0xE2, 0x82, 0x41] = some ⟨1, some 2⟩ := by decide
example : fault? [0x61, 0xED, 0xA0, 0x80] = some ⟨1, some 1⟩ := by decide

end HeaderNotes.Text.Utf8

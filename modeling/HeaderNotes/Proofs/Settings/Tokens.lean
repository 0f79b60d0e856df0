import Mathlib.Tactic.SplitIfs
import HeaderNotes.Json.Value
import HeaderNotes.Settings.Reader.Number

/-!
The written forms of the smallest pieces of a settings file. A text may write each of its characters
in several ways, while a number that fits into 64 bits is written by its decimal digits alone. Each
form is read as what it writes.
-/

namespace HeaderNotes.Settings.Reader

section Space

/-- Nothing but white space. -/
def Space (cs : List Char) : Prop :=
  ∀ c ∈ cs, isSpace c

theorem space_nil : Space [] :=
  nofun

theorem skipSpace_append {space : List Char} (h : Space space) (cs : List Char) :
    skipSpace (space ++ cs) = skipSpace cs :=
  List.dropWhile_append_of_pos h

theorem skipSpace_cons {c : Char} (h : isSpace c = false) (cs : List Char) :
    skipSpace (c :: cs) = c :: cs := by
  simp [skipSpace, h]

end Space

section Texts

/-- Four hexadecimal digits and the code unit that they write. -/
inductive UnitForm : Nat → List Char → Prop
  | digits {a b c d : Char} {w x y z : Nat} (ha : hexDigit? a = some w) (hb : hexDigit? b = some x)
      (hc : hexDigit? c = some y) (hd : hexDigit? d = some z) :
      UnitForm (((w * 16 + x) * 16 + y) * 16 + z) [a, b, c, d]

/-- The characters that are written by a backslash and one more character. -/
def shortForms : List (Char × Char) :=
  [('"', '"'), ('\\', '\\'), ('/', '/'), ('\x08', 'b'), ('\x0c', 'f'), ('\n', 'n'), ('\r', 'r'),
    ('\t', 't')]

/-- The ways of writing a character of a text: as it is, by a short form, by its code unit, or by
two code units if one is not enough. -/
inductive CharForm : Char → List Char → Prop
  | plain {c : Char} (quote : c ≠ '"') (backslash : c ≠ '\\') (control : 0x20 ≤ c.toNat) :
      CharForm c [c]
  | short {c e : Char} (listed : (c, e) ∈ shortForms) : CharForm c ['\\', e]
  | unit {c : Char} {digits : List Char} (form : UnitForm c.toNat digits) :
      CharForm c ('\\' :: 'u' :: digits)
  | pair {c : Char} {high low : Nat} {first second : List Char} (hh : UnitForm high first)
      (hl : UnitForm low second) (isHigh : 0xD800 ≤ high ∧ high ≤ 0xDBFF)
      (isLow : 0xDC00 ≤ low ∧ low ≤ 0xDFFF)
      (joined : c.toNat = (high - 0xD800) * 0x400 + (low - 0xDC00) + 0x10000) :
      CharForm c ('\\' :: 'u' :: (first ++ '\\' :: 'u' :: second))

/-- The ways of writing the characters of a text one after the other. -/
inductive BodyForm : List Char → List Char → Prop
  | nil : BodyForm [] []
  | cons {c : Char} {cs form forms : List Char} (first : CharForm c form)
      (others : BodyForm cs forms) : BodyForm (c :: cs) (form ++ forms)

/-- The ways of writing a text: its characters between quotes. -/
def TextForm (s : String) (cs : List Char) : Prop :=
  ∃ body, BodyForm s.toList body ∧ cs = '"' :: (body ++ ['"'])

theorem utf8Size_of_hexDigit? {c : Char} {n : Nat} (h : hexDigit? c = some n) :
    c.utf8Size = 1 := by
  have hle : c ≤ 'f' := by
    unfold hexDigit? at h
    split_ifs at h with hdigit hlower hupper
    · exact UInt32.le_trans hdigit.2 (by decide)
    · exact hlower.2
    · exact UInt32.le_trans hupper.2 (by decide)
  have hval : c.val ≤ 0x7F := UInt32.le_trans hle (by decide)
  simp [Char.utf8Size, hval]

theorem codeUnit_form {n : Nat} {digits : List Char} (h : UnitForm n digits) (rest : List Char) :
    codeUnit (digits ++ rest) = .ok (n, rest) := by
  cases h with
  | digits ha hb hc hd =>
      simp [codeUnit, byteCount, ha, hb, hc, hd, utf8Size_of_hexDigit? ha,
        utf8Size_of_hexDigit? hb, utf8Size_of_hexDigit? hc, utf8Size_of_hexDigit? hd]

theorem escape_short {c e : Char} (h : (c, e) ∈ shortForms) (rest : List Char) :
    escape (e :: rest) = .ok (c, rest) := by
  have hread : e ≠ 'u' ∧ shortEscape? e = some c := by
    revert h
    simp only [shortForms, List.mem_cons, Prod.mk.injEq, List.not_mem_nil, or_false]
    rintro (⟨rfl, rfl⟩ | ⟨rfl, rfl⟩ | ⟨rfl, rfl⟩ | ⟨rfl, rfl⟩ | ⟨rfl, rfl⟩ | ⟨rfl, rfl⟩ |
      ⟨rfl, rfl⟩ | ⟨rfl, rfl⟩) <;> decide
  simp only [escape, hread, if_false]

theorem not_surrogate (c : Char) :
    isLowSurrogate c.toNat = false ∧ isHighSurrogate c.toNat = false := by
  have hvalid : c.toNat < 0xD800 ∨ 0xDFFF < c.toNat ∧ c.toNat < 0x110000 := c.valid
  simp only [isLowSurrogate, isHighSurrogate, Bool.and_eq_false_iff, decide_eq_false_iff_not]
  omega

theorem escape_unit {c : Char} {digits : List Char} (h : UnitForm c.toNat digits)
    (rest : List Char) : escape ('u' :: (digits ++ rest)) = .ok (c, rest) := by
  simp [escape, numericEscape, codeUnit_form h, not_surrogate c, bind, Except.bind]

theorem escape_pair {c : Char} {high low : Nat} {first second : List Char}
    (hh : UnitForm high first) (hl : UnitForm low second) (isHigh : 0xD800 ≤ high ∧ high ≤ 0xDBFF)
    (isLow : 0xDC00 ≤ low ∧ low ≤ 0xDFFF)
    (joined : c.toNat = (high - 0xD800) * 0x400 + (low - 0xDC00) + 0x10000) (rest : List Char) :
    escape ('u' :: (first ++ '\\' :: 'u' :: (second ++ rest))) = .ok (c, rest) := by
  have notLow : isLowSurrogate high = false := by
    simp only [isLowSurrogate, Bool.and_eq_false_iff, decide_eq_false_iff_not]
    omega
  have high' : isHighSurrogate high = true := by simpa [isHighSurrogate] using isHigh
  have low' : isLowSurrogate low = true := by simpa [isLowSurrogate] using isLow
  simp [escape, numericEscape, secondHalf, codeUnit_form hh, codeUnit_form hl, notLow, high', low',
    ← joined, bind, Except.bind]

theorem textWithin_escape {rounds : Nat} {c : Char} {escaped cs : List Char}
    (h : escape escaped = .ok (c, cs)) :
    textWithin (rounds + 1) ('\\' :: escaped) =
      (textWithin rounds cs).map fun (text, rest) => (c :: text, rest) := by
  have hback : '\\' ≠ '"' := by decide
  simp only [textWithin, hback, if_false, if_true, h, bind, Except.bind]
  cases textWithin rounds cs <;> rfl

/-- Every character of a text is read in one round. -/
theorem textWithin_char {c : Char} {form : List Char} (h : CharForm c form) (rounds : Nat)
    (cs : List Char) :
    textWithin (rounds + 1) (form ++ cs) =
      (textWithin rounds cs).map fun (text, rest) => (c :: text, rest) := by
  cases h with
  | plain quote backslash control =>
      simp only [List.cons_append, List.nil_append, textWithin, quote, backslash,
        Nat.not_lt.mpr control, if_false]
      cases textWithin rounds cs <;> rfl
  | short listed => exact textWithin_escape (escape_short listed cs)
  | unit form => exact textWithin_escape (escape_unit form cs)
  | pair hh hl isHigh isLow joined =>
      simp only [List.cons_append, List.append_assoc]
      exact textWithin_escape (escape_pair hh hl isHigh isLow joined cs)

theorem textWithin_body {cs body : List Char} (h : BodyForm cs body) {rounds : Nat}
    (enough : cs.length < rounds) (rest : List Char) :
    textWithin rounds (body ++ '"' :: rest) = .ok (cs, rest) := by
  induction h generalizing rounds with
  | nil =>
      obtain ⟨rounds, rfl⟩ := Nat.exists_eq_add_one_of_ne_zero (Nat.ne_zero_of_lt enough)
      rfl
  | cons first others ih =>
      obtain ⟨rounds, rfl⟩ := Nat.exists_eq_add_one_of_ne_zero (Nat.ne_zero_of_lt enough)
      -- One round is used up by the first character, and one character fewer is left.
      rw [List.append_assoc, textWithin_char first, ih (by simpa using enough)]
      rfl

theorem CharForm.length_pos {c : Char} {form : List Char} (h : CharForm c form) :
    0 < form.length := by
  cases h <;> simp

theorem BodyForm.length_le {cs body : List Char} (h : BodyForm cs body) :
    cs.length ≤ body.length := by
  induction h with
  | nil => exact Nat.le_refl _
  | cons first _ ih =>
      have := first.length_pos
      simp only [List.length_cons, List.length_append]
      omega

theorem text_form {s : String} {body : List Char} (h : BodyForm s.toList body)
    (rest : List Char) : text (body ++ '"' :: rest) = .ok (s, rest) := by
  have enough : s.toList.length < (body ++ '"' :: rest).length + 1 := by
    have := h.length_le
    simp only [List.length_append, List.length_cons]
    omega
  rw [text, textWithin_body h enough]
  simp [bind, Except.bind]

theorem hexDigit?_digitChar : ∀ n < 16, hexDigit? (Nat.digitChar n) = some n := by
  decide

theorem charForm_escapedChar (c : Char) : CharForm c (Json.escapedChar c) := by
  unfold Json.escapedChar
  split_ifs with hquote hback hb ht hn hf hr hcontrol
  · exact .short (by rw [hquote]; decide)
  · exact .short (by rw [hback]; decide)
  · exact .short (by rw [hb]; decide)
  · exact .short (by rw [ht]; decide)
  · exact .short (by rw [hn]; decide)
  · exact .short (by rw [hf]; decide)
  · exact .short (by rw [hr]; decide)
  · have hzero : hexDigit? '0' = some 0 := by decide
    have form : UnitForm (((0 * 16 + 0) * 16 + c.toNat / 16) * 16 + c.toNat % 16)
        ['0', '0', Nat.digitChar (c.toNat / 16), Nat.digitChar (c.toNat % 16)] :=
      .digits hzero hzero (hexDigit?_digitChar _ (by omega)) (hexDigit?_digitChar _ (by omega))
    rw [show ((0 * 16 + 0) * 16 + c.toNat / 16) * 16 + c.toNat % 16 = c.toNat by omega] at form
    exact .unit form
  · exact .plain hquote hback (Nat.not_lt.mp hcontrol)

theorem bodyForm_printed (cs : List Char) : BodyForm cs (cs.flatMap Json.escapedChar) := by
  induction cs with
  | nil => exact .nil
  | cons c cs ih => exact .cons (charForm_escapedChar c) ih

/-- What is printed for a text is one of the ways of writing it. -/
theorem textForm_printed (s : String) : TextForm s (Json.textChars s) :=
  ⟨_, bodyForm_printed s.toList, rfl⟩

end Texts

section Numbers

theorem appendDigits_append {significand m : Nat} {cs : List Char}
    (h : appendDigits significand cs = (m, 0)) (ds : List Char) :
    appendDigits significand (cs ++ ds) = appendDigits m ds := by
  induction cs generalizing significand with
  | nil =>
      obtain rfl : significand = m := congrArg Prod.fst h
      rfl
  | cons c cs ih =>
      simp only [appendDigits] at h
      split at h
      · rename_i fits
        simpa [appendDigits, fits] using ih h
      · simp at h

theorem digitValue_digitChar : ∀ n < 10, digitValue (Nat.digitChar n) = n := by
  decide

theorem toDigits_of_ge {n : Nat} (h : 10 ≤ n) :
    Nat.toDigits 10 n = Nat.toDigits 10 (n / 10) ++ [Nat.digitChar (n % 10)] := by
  have hmod : n % 10 < 10 := Nat.mod_lt n (by decide)
  have happend := Nat.toDigits_append_toDigits (by decide) (show 0 < n / 10 by omega) hmod
  rw [Nat.toDigits_of_lt_base hmod, Nat.div_add_mod] at happend
  exact happend.symm

/-- No digit of a number that fits is dropped. -/
theorem appendDigits_toDigits {n : Nat} (h : n < UInt64.size) :
    appendDigits 0 (Nat.toDigits 10 n) = (n, 0) := by
  induction n using Nat.strongRecOn with
  | ind n ih =>
      by_cases hn : n < 10
      · rw [Nat.toDigits_of_lt_base hn]
        simp [appendDigits, digitValue_digitChar n hn, h]
      · -- The digits in front of the last one are those of a number that fits as well.
        have hdiv : n / 10 < n := by omega
        have hback : n / 10 * 10 + n % 10 = n := by omega
        rw [toDigits_of_ge (by omega), appendDigits_append (ih _ hdiv (by omega))]
        simp [appendDigits, digitValue_digitChar _ (Nat.mod_lt n (by decide)), hback, h]

/-- A number starts with a digit, which is not zero for another number than zero. -/
theorem exists_toDigits (n : Nat) :
    ∃ c cs, Nat.toDigits 10 n = c :: cs ∧ (∀ d ∈ c :: cs, d.isDigit) ∧ (n ≠ 0 → c ≠ '0') := by
  have first : ∃ c cs, Nat.toDigits 10 n = c :: cs ∧ (n ≠ 0 → c ≠ '0') := by
    induction n using Nat.strongRecOn with
    | ind n ih =>
        by_cases hn : n < 10
        · have hdigit : ∀ m < 10, m ≠ 0 → Nat.digitChar m ≠ '0' := by decide
          exact ⟨_, [], Nat.toDigits_of_lt_base hn, hdigit n hn⟩
        · obtain ⟨c, cs, hcs, hc⟩ := ih (n / 10) (by omega)
          exact ⟨c, _, by rw [toDigits_of_ge (by omega), hcs]; rfl, fun _ => hc (by omega)⟩
  obtain ⟨c, cs, hcs, hc⟩ := first
  exact ⟨c, cs, hcs, fun d hd => Nat.isDigit_of_mem_toDigits (by decide) (by decide) (hcs ▸ hd), hc⟩

/-- What can follow a value: nothing, white space, a comma or the end of what it stands in. -/
def EndsValue (rest : List Char) : Prop :=
  ∀ c ∈ rest.head?, isSpace c ∨ c ∈ [',', ']', '\x7d']

theorem EndsValue.not_continued {rest : List Char} (h : EndsValue rest) {c : Char}
    (hc : c ∈ rest.head?) : c.isDigit = false ∧ c ∉ ['.', 'e', 'E'] := by
  have marks : c ∈ [' ', '\t', '\n', '\r', ',', ']', '\x7d'] := by
    rcases h c hc with hspace | hmark
    · simp only [isSpace, Bool.or_eq_true, beq_iff_eq] at hspace
      rcases hspace with ((rfl | rfl) | rfl) | rfl <;> decide
    · exact List.mem_append_right [' ', '\t', '\n', '\r'] hmark
  simp only [List.mem_cons, List.not_mem_nil, or_false] at marks
  rcases marks with rfl | rfl | rfl | rfl | rfl | rfl | rfl <;> decide

theorem behindInteger_natural {n : Nat} {rest : List Char} (h : EndsValue rest) :
    behindInteger true n 0 rest = .ok (.natural n, rest) := by
  have noMark : exponentMark? rest = none := by
    unfold exponentMark?
    split
    · exact absurd (by decide) (h.not_continued rfl).2
    · exact absurd (by decide) (h.not_continued rfl).2
    · rfl
  unfold behindInteger
  split
  · exact absurd (by decide) (h.not_continued rfl).2
  · simp only [noMark, whole, if_true]

theorem EndsValue.span_digits {rest : List Char} (h : EndsValue rest) :
    rest.takeWhile Char.isDigit = [] ∧ rest.dropWhile Char.isDigit = rest := by
  cases rest with
  | nil => exact ⟨rfl, rfl⟩
  | cons c cs => simp [(h.not_continued rfl).1]

/-- The digits of a number that fits into 64 bits are read as that number. -/
theorem number_toDigits {n : Nat} (h : n < UInt64.size) {rest : List Char} (hr : EndsValue rest) :
    number true (Nat.toDigits 10 n ++ rest) = .ok (.natural n, rest) := by
  have hend := behindInteger_natural (n := n) hr
  by_cases hn : n = 0
  · subst hn
    cases rest with
    | nil => exact hend
    | cons c cs => simp [number, (hr.not_continued rfl).1, hend]
  · obtain ⟨c, cs, hcs, hall, hc⟩ := exists_toDigits n
    have hvalue := appendDigits_toDigits h
    rw [hcs] at hvalue ⊢
    obtain ⟨hfirst, hothers⟩ := List.forall_mem_cons.mp hall
    simp [number, hc hn, hfirst, List.takeWhile_append_of_pos hothers,
      List.dropWhile_append_of_pos hothers, hr.span_digits, hvalue, hend]

theorem not_isSpace_of_isDigit {c : Char} (h : c.isDigit) : isSpace c = false := by
  simp only [isSpace, Bool.or_eq_false_iff, beq_eq_false_iff_ne]
  refine ⟨⟨⟨?_, ?_⟩, ?_⟩, ?_⟩ <;> rintro rfl <;> exact absurd h (by decide)

end Numbers

end HeaderNotes.Settings.Reader

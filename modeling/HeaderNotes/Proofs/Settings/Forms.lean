import Mathlib.Data.List.Nodup
import HeaderNotes.Proofs.Settings.Tokens
import HeaderNotes.Settings.Reader.Document

/-!
The written forms of the values of a settings file. White space may stand between any two of their
pieces, and the fields of a record may come in any order. Whatever form a value is written in, its
reader gives it back; a record takes the fields that are given and keeps the others.
-/

namespace HeaderNotes.Settings.Reader

/-- Reading gives a value from a written form of it, behind any white space. -/
def Reads {α : Type} (read : List Char → Except Stop (Parsed α)) (written : List Char) (a : α) :
    Prop :=
  ∀ space rest, Space space → EndsValue rest → read (space ++ (written ++ rest)) = .ok (a, rest)

section Values

/-- The one way of writing a boolean. -/
def BooleanForm (b : Bool) (cs : List Char) : Prop :=
  cs = if b then "true".toList else "false".toList

/-- The one way of writing a count: its decimal digits. -/
def CountForm (n : UInt64) (cs : List Char) : Prop :=
  cs = Nat.toDigits 10 n.toNat

/-- The ways of writing what may be missing: a null, or a value. -/
def OptionalForm {α : Type} (form : α → List Char → Prop) : Option α → List Char → Prop
  | none, cs => cs = "null".toList
  | some a, cs => form a cs

/-- The ways of writing a locale: its name, or an object with its name as the key of a null. -/
inductive LocaleForm (l : Locale) : List Char → Prop
  | name {cs : List Char} (h : TextForm l.name cs) : LocaleForm l cs
  | object {s₁ key s₂ s₃ s₄ : List Char} (h₁ : Space s₁) (hk : TextForm l.name key)
      (h₂ : Space s₂) (h₃ : Space s₃) (h₄ : Space s₄) :
      LocaleForm l ('\x7b' :: (s₁ ++ (key ++ (s₂ ++ ':' :: (s₃ ++ ("null".toList ++
        (s₄ ++ ['\x7d'])))))))

theorem reads_boolean {b : Bool} {cs : List Char} (h : BooleanForm b cs) :
    Reads boolean cs b := by
  intro space rest hs _
  cases b with
  | true =>
      simp only [boolean, skipSpace_append hs, show cs = "true".toList from h]
      rfl
  | false =>
      simp only [boolean, skipSpace_append hs, show cs = "false".toList from h]
      rfl

theorem quotedText_form {s : String} {cs : List Char} (h : TextForm s cs) {space : List Char}
    (hs : Space space) (rest : List Char) : quotedText (space ++ (cs ++ rest)) = .ok (s, rest) := by
  obtain ⟨body, hb, rfl⟩ := h
  simp only [quotedText, skipSpace_append hs, List.cons_append, List.append_assoc,
    List.nil_append]
  rw [skipSpace_cons rfl]
  exact text_form hb rest

theorem reads_text {s : String} {cs : List Char} (h : TextForm s cs) : Reads quotedText cs s :=
  fun _ rest hs _ => quotedText_form h hs rest

theorem reads_count {n : UInt64} {cs : List Char} (h : CountForm n cs) : Reads count cs n := by
  intro space rest hs hr
  obtain ⟨c, ds, hds, hall, -⟩ := exists_toDigits n.toNat
  have hc := hall c List.mem_cons_self
  have hread := number_toDigits (UInt64.toNat_lt_size n) hr
  rw [hds] at hread
  have hminus : c ≠ '-' := by
    rintro rfl
    exact absurd hc (by decide)
  simp only [count, skipSpace_append hs, show cs = _ from h, hds, List.cons_append,
    skipSpace_cons (not_isSpace_of_isDigit hc), hminus, hc, if_false, if_true]
  rw [← List.cons_append, hread]
  simp [Except.bind]

theorem reads_null {α : Type} (read : List Char → Except Stop (Parsed α)) :
    Reads (optional read) "null".toList none := by
  intro space rest hs _
  simp only [optional, skipSpace_append hs]
  rfl

/-- A value that does not start like a null is read where it may be missing. -/
theorem reads_some {α : Type} {read : List Char → Except Stop (Parsed α)}
    {c : Char} {cs : List Char} {a : α} (hs : isSpace c = false) (hn : c ≠ 'n')
    (h : Reads read (c :: cs) a) : Reads (optional read) (c :: cs) (some a) := by
  intro space rest hspace hr
  have hread := h space rest hspace hr
  simp only [List.cons_append] at hread
  simp only [optional, skipSpace_append hspace, List.cons_append, skipSpace_cons hs, hread]
  split
  · rename_i heq
    exact absurd (List.cons.inj heq).1 hn
  · rfl

theorem reads_optionalText {p : Option String} {cs : List Char} (h : OptionalForm TextForm p cs) :
    Reads (optional quotedText) cs p := by
  cases p with
  | none =>
      obtain rfl : cs = "null".toList := h
      exact reads_null quotedText
  | some s =>
      obtain ⟨body, hb, rfl⟩ : TextForm s cs := h
      exact reads_some rfl (by decide) (reads_text ⟨body, hb, rfl⟩)

theorem reads_optionalCount {n : Option UInt64} {cs : List Char}
    (h : OptionalForm CountForm n cs) : Reads (optional count) cs n := by
  cases n with
  | none =>
      obtain rfl : cs = "null".toList := h
      exact reads_null count
  | some n =>
      obtain ⟨c, ds, hds, hall, -⟩ := exists_toDigits n.toNat
      have hc := hall c List.mem_cons_self
      obtain rfl : cs = c :: ds := Eq.trans h hds
      refine reads_some (not_isSpace_of_isDigit hc) ?_ (reads_count h)
      rintro rfl
      exact absurd hc (by decide)

theorem colon_form {space : List Char} (hs : Space space) (rest : List Char) :
    colon (space ++ ':' :: rest) = .ok rest := by
  simp only [colon, skipSpace_append hs]
  rfl

theorem localeNamed_name (l : Locale) (rest : List Char) :
    localeNamed (l.name, rest) = .ok (l, rest) := by
  cases l <;> rfl

theorem reads_locale {l : Locale} {cs : List Char} (h : LocaleForm l cs) : Reads locale cs l := by
  intro space rest hs _
  cases h with
  | name h =>
      obtain ⟨body, hb, rfl⟩ := h
      simp only [locale, skipSpace_append hs, List.cons_append, List.append_assoc,
        List.nil_append]
      rw [skipSpace_cons rfl]
      simp [text_form hb, localeNamed_name, bind, Except.bind]
  | @object s₁ key s₂ s₃ s₄ h₁ hk h₂ h₃ h₄ =>
      obtain ⟨body, hb, rfl⟩ := hk
      have hkey (more : List Char) :
          localeKey (s₁ ++ ('"' :: (body ++ '"' :: more))) = .ok (l.name, more) := by
        simp only [localeKey, skipSpace_append h₁]
        rw [skipSpace_cons rfl]
        exact text_form hb more
      have hnull (more : List Char) :
          nothing (s₃ ++ 'n' :: 'u' :: 'l' :: 'l' :: more) = .ok ((), more) := by
        simp only [nothing, skipSpace_append h₃]
        rfl
      simp only [locale, skipSpace_append hs, List.cons_append, List.append_assoc,
        List.nil_append]
      rw [skipSpace_cons rfl]
      simp [hkey, hnull, localeNamed_name, colon_form h₂, skipSpace_append h₄,
        skipSpace_cons (c := '\x7d') rfl, bind, Except.bind]

end Values

section Sequences

/-- The ways of writing the items behind the first one, up to a closing bracket. -/
inductive ItemsForm {α : Type} (form : α → List Char → Prop) : List α → List Char → Prop
  | done {space : List Char} (hs : Space space) : ItemsForm form [] space
  | item {before after cs more : List Char} {a : α} {as : List α} (hb : Space before)
      (ha : Space after) (first : form a cs) (others : ItemsForm form as more) :
      ItemsForm form (a :: as) (before ++ ',' :: (after ++ (cs ++ more)))

/-- The ways of writing items between two brackets, with a comma between any two. -/
inductive SequenceForm {α : Type} (form : α → List Char → Prop) : List α → List Char → Prop
  | empty {space : List Char} (hs : Space space) : SequenceForm form [] space
  | items {space cs more : List Char} {a : α} {as : List α} (hs : Space space) (first : form a cs)
      (others : ItemsForm form as more) : SequenceForm form (a :: as) (space ++ (cs ++ more))

variable {α : Type} {form : α → List Char → Prop}

theorem ItemsForm.length_le {items : List α} {cs : List Char} (h : ItemsForm form items cs) :
    items.length ≤ cs.length := by
  induction h with
  | done => exact Nat.zero_le _
  | item _ _ _ _ ih =>
      simp only [List.length_cons, List.length_append]
      omega

theorem endsValue_space {space rest : List Char} (hs : Space space) (hr : EndsValue rest) :
    EndsValue (space ++ rest) := by
  cases space with
  | nil => exact hr
  | cons c space =>
      rintro d hd
      obtain rfl := Option.some.inj hd
      exact .inl (hs c List.mem_cons_self)

theorem endsValue_cons {c : Char} (hc : c ∈ [',', ']', '\x7d']) (rest : List Char) :
    EndsValue (c :: rest) := by
  rintro d hd
  obtain rfl := Option.some.inj hd
  exact .inr hc

theorem ItemsForm.endsValue {items : List α} {cs : List Char} (h : ItemsForm form items cs)
    {rest : List Char} (hr : EndsValue rest) : EndsValue (cs ++ rest) := by
  cases h with
  | done hs => exact endsValue_space hs hr
  | item hb _ _ _ =>
      rw [List.append_assoc]
      exact endsValue_space hb (endsValue_cons (by decide) _)

end Sequences

section Lists

/-- The ways of writing a list of texts. -/
def TextsForm (items : List String) (cs : List Char) : Prop :=
  ∃ body, SequenceForm TextForm items body ∧ cs = '[' :: (body ++ [']'])

theorem nextItem?_end {space : List Char} (hs : Space space) (first : Bool) (rest : List Char) :
    nextItem? first (space ++ ']' :: rest) = .ok none := by
  simp only [nextItem?, skipSpace_append hs]
  rfl

theorem textsWithin_end {first : Bool} {space : List Char} (hs : Space space) (rounds : Nat)
    (rest : List Char) :
    textsWithin (rounds + 1) first (space ++ ']' :: rest) = .ok ([], rest) := by
  simp only [textsWithin, nextItem?_end hs, skipSpace_append hs, bind, Except.bind]
  rfl

theorem nextItem?_text {s : String} {cs : List Char} (h : TextForm s cs) {before after : List Char}
    (hb : Space before) (ha : Space after) (rest : List Char) :
    nextItem? true (after ++ (cs ++ rest)) = .ok (some (cs ++ rest)) ∧
      nextItem? false (before ++ ',' :: (after ++ (cs ++ rest))) = .ok (some (cs ++ rest)) := by
  obtain ⟨body, _, rfl⟩ := h
  have hcomma : skipSpace (',' :: (after ++ ('"' :: (body ++ ['"']) ++ rest))) =
      ',' :: (after ++ ('"' :: (body ++ ['"']) ++ rest)) := skipSpace_cons rfl _
  constructor
  · simp only [nextItem?, skipSpace_append ha]
    rfl
  · simp only [nextItem?, skipSpace_append hb, hcomma, skipSpace_append ha]
    rfl

theorem textsWithin_item {first : Bool} {s : String} {cs place more : List Char}
    (h : TextForm s cs) (next : nextItem? first place = .ok (some (cs ++ more))) (rounds : Nat) :
    textsWithin (rounds + 1) first place =
      (textsWithin rounds false more).map fun (items, rest) => (s :: items, rest) := by
  have hread := quotedText_form h space_nil more
  rw [List.nil_append] at hread
  simp only [textsWithin, next, hread, bind, Except.bind]
  cases textsWithin rounds false more <;> rfl

theorem textsWithin_items {items : List String} {cs : List Char}
    (h : ItemsForm TextForm items cs) {rounds : Nat} (enough : items.length < rounds)
    (rest : List Char) : textsWithin rounds false (cs ++ ']' :: rest) = .ok (items, rest) := by
  induction h generalizing rounds with
  | done hs =>
      obtain ⟨rounds, rfl⟩ := Nat.exists_eq_add_one_of_ne_zero (Nat.ne_zero_of_lt enough)
      exact textsWithin_end hs rounds rest
  | item hb ha first others ih =>
      obtain ⟨rounds, rfl⟩ := Nat.exists_eq_add_one_of_ne_zero (Nat.ne_zero_of_lt enough)
      simp only [List.append_assoc, List.cons_append]
      rw [textsWithin_item first (nextItem?_text first hb ha _).2, ih (by simpa using enough)]
      rfl

theorem reads_texts {items : List String} {cs : List Char} (h : TextsForm items cs) :
    Reads texts cs items := by
  intro space rest hs _
  obtain ⟨body, hbody, rfl⟩ := h
  simp only [texts, skipSpace_append hs, List.cons_append, List.append_assoc, List.nil_append]
  rw [skipSpace_cons rfl]
  simp only [if_true]
  cases hbody with
  | empty hs => exact textsWithin_end hs _ rest
  | items hs first others =>
      simp only [List.append_assoc]
      rw [textsWithin_item first (nextItem?_text first hs hs _).1, textsWithin_items others]
      · rfl
      · have := others.length_le
        simp only [List.length_append, List.length_cons]
        omega

end Lists

section Records

variable {σ ε : Type} {fields : List (Field σ)} {name : ε → String}
  {form : ε → List Char → Prop} {give : ε → σ → σ}

/-- The ways of writing a field that is given: its name, a colon and its value. -/
inductive MemberForm (name : ε → String) (form : ε → List Char → Prop) (e : ε) :
    List Char → Prop
  | member {key before after value : List Char} (hk : TextForm (name e) key)
      (hb : Space before) (ha : Space after) (hv : form e value) :
      MemberForm name form e (key ++ (before ++ ':' :: (after ++ value)))

/-- The ways of writing an object with the given fields in this order. -/
def ObjectForm (name : ε → String) (form : ε → List Char → Prop) (entries : List ε)
    (cs : List Char) : Prop :=
  ∃ body, SequenceForm (MemberForm name form) entries body ∧ cs = '\x7b' :: (body ++ ['\x7d'])

/-- The fields of a record have one that an entry names, and its reader does to the record what the
entry gives. -/
def Understood (fields : List (Field σ)) (name : ε → String) (form : ε → List Char → Prop)
    (give : ε → σ → σ) (e : ε) : Prop :=
  ∃ field, fields.find? (fun field => field.name == name e) = some field ∧
    ∀ value, form e value → ∀ before, Reads (field.read before) value (give e before)

theorem nextKey?_end {space : List Char} (hs : Space space) (first : Bool) (rest : List Char) :
    nextKey? first (space ++ '\x7d' :: rest) = .ok none := by
  simp only [nextKey?, skipSpace_append hs]
  rfl

theorem objectWithin_end {first : Bool} {space : List Char} (hs : Space space) (rounds : Nat)
    (seen : List String) (record : σ) (rest : List Char) :
    objectWithin fields (rounds + 1) first seen record (space ++ '\x7d' :: rest) =
      .ok (record, rest) := by
  simp only [objectWithin, nextKey?_end hs, skipSpace_append hs, bind, Except.bind]
  rfl

theorem nextKey?_key {before after : List Char} (hb : Space before) (ha : Space after)
    (rest : List Char) :
    nextKey? true (after ++ '"' :: rest) = .ok (some rest) ∧
      nextKey? false (before ++ ',' :: (after ++ '"' :: rest)) = .ok (some rest) := by
  have hcomma : skipSpace (',' :: (after ++ '"' :: rest)) = ',' :: (after ++ '"' :: rest) :=
    skipSpace_cons rfl _
  constructor
  · simp only [nextKey?, skipSpace_append ha]
    rfl
  · simp only [nextKey?, skipSpace_append hb, hcomma, skipSpace_append ha]
    rfl

/-- A field that was not given before is read, wherever the place of its key is found. -/
theorem objectWithin_member {first : Bool} {seen : List String} {e : ε} {cs place : List Char}
    {rest : List Char} (known : Understood fields name form give e)
    (fresh : name e ∉ seen) (h : MemberForm name form e cs) (ends : EndsValue rest)
    (next : ∀ key, cs ++ rest = '"' :: key → nextKey? first place = .ok (some key))
    (rounds : Nat) (before : σ) :
    objectWithin fields (rounds + 1) first seen before place =
      objectWithin fields rounds false (name e :: seen) (give e before) rest := by
  obtain ⟨field, hfield, hread⟩ := known
  cases h with
  | member hk hb ha hv =>
      obtain ⟨body, hbody, rfl⟩ := hk
      have hnext := next (body ++ '"' :: (_ ++ ':' :: (_ ++ (_ ++ rest)))) (by simp; rfl)
      have hunseen : seen.contains (name e) = false := by simpa using fresh
      have hvalue := hread _ hv before _ rest ha ends
      simp only [objectWithin, hnext, text_form hbody, hfield, hunseen, colon_form hb, hvalue, bind,
        Except.bind, Bool.false_eq_true, if_false]

theorem fresh_cons {e : ε} {entries : List ε} {seen : List String}
    (once : ((e :: entries).map name).Nodup) (fresh : ∀ d ∈ entries, name d ∉ seen) :
    ∀ d ∈ entries, name d ∉ name e :: seen := by
  intro d hd hmem
  rcases List.mem_cons.mp hmem with same | hseen
  · exact (List.nodup_cons.mp once).1 (same ▸ List.mem_map_of_mem hd)
  · exact fresh d hd hseen

/-- The fields behind the first one are read one by one, each over the record that the earlier ones
have left. -/
theorem objectWithin_items {entries : List ε} {cs : List Char}
    (h : ItemsForm (MemberForm name form) entries cs) {seen : List String}
    (known : ∀ e ∈ entries, Understood fields name form give e)
    (fresh : ∀ e ∈ entries, name e ∉ seen) (once : (entries.map name).Nodup) {rounds : Nat}
    (enough : entries.length < rounds) (before : σ) (rest : List Char) :
    objectWithin fields rounds false seen before (cs ++ '\x7d' :: rest) =
      .ok (entries.foldl (fun record e => give e record) before, rest) := by
  induction h generalizing rounds seen before with
  | done hs =>
      obtain ⟨rounds, rfl⟩ := Nat.exists_eq_add_one_of_ne_zero (Nat.ne_zero_of_lt enough)
      exact objectWithin_end hs rounds seen before rest
  | item hb ha first others ih =>
      obtain ⟨rounds, rfl⟩ := Nat.exists_eq_add_one_of_ne_zero (Nat.ne_zero_of_lt enough)
      obtain ⟨here, later⟩ := List.forall_mem_cons.mp known
      obtain ⟨unseen, unseenLater⟩ := List.forall_mem_cons.mp fresh
      simp only [List.append_assoc, List.cons_append]
      rw [objectWithin_member here unseen first
        (others.endsValue (endsValue_cons (by decide) rest))
        (fun key hkey => hkey ▸ (nextKey?_key hb ha key).2)]
      -- The name of this field is one of those given from here on.
      exact ih later (fresh_cons once unseenLater) (List.nodup_cons.mp once).2
        (by simpa using enough) _

/-- A record takes the fields of an object over its defaults. -/
theorem reads_record {entries : List ε} {cs : List Char} (h : ObjectForm name form entries cs)
    (known : ∀ e ∈ entries, Understood fields name form give e) (once : (entries.map name).Nodup)
    (shape : Shape) (defaults : σ) :
    Reads (record shape fields defaults) cs
      (entries.foldl (fun record e => give e record) defaults) := by
  intro space rest hs _
  obtain ⟨body, hbody, rfl⟩ := h
  simp only [record, skipSpace_append hs, List.cons_append, List.append_assoc, List.nil_append]
  rw [skipSpace_cons rfl]
  have hnot : '\x7b' ≠ '[' := by decide
  simp only [hnot, if_false, if_true]
  cases hbody with
  | empty hs => exact objectWithin_end hs _ [] defaults rest
  | items ha first others =>
      obtain ⟨here, later⟩ := List.forall_mem_cons.mp known
      simp only [List.append_assoc]
      rw [objectWithin_member here List.not_mem_nil first
        (others.endsValue (endsValue_cons (by decide) rest))
        (fun key hkey => hkey ▸ (nextKey?_key ha ha key).1)]
      refine objectWithin_items others later (fresh_cons once fun _ _ => List.not_mem_nil)
        (List.nodup_cons.mp once).2 ?_ _ rest
      have := others.length_le
      simp only [List.length_append, List.length_cons]
      omega

/-- The ways of writing an object with the given fields, in any order. -/
def RecordForm (name : ε → String) (form : ε → List Char → Prop) (entries : List ε)
    (cs : List Char) : Prop :=
  ∃ order, order.Perm entries ∧ ObjectForm name form order cs

/-- The order of the fields does not matter if no field touches what another one gives. -/
theorem reads_recordForm {entries : List ε} {cs : List Char}
    (h : RecordForm name form entries cs)
    (known : ∀ e, Understood fields name form give e) (once : (entries.map name).Nodup)
    (apart : ∀ d e, (name d = name e → d = e) → ∀ record,
      give e (give d record) = give d (give e record))
    (shape : Shape) (defaults : σ) :
    Reads (record shape fields defaults) cs
      (entries.foldl (fun record e => give e record) defaults) := by
  obtain ⟨order, perm, written⟩ := h
  have onceInOrder : (order.map name).Nodup := (perm.map name).nodup_iff.mpr once
  -- Two fields of one name are the same field, so any two of them can be swapped.
  have same : order.foldl (fun record e => give e record) defaults =
      entries.foldl (fun record e => give e record) defaults := by
    refine perm.foldl_eq' ?_ defaults
    intro d hd e he record
    exact apart d e (List.inj_on_of_nodup_map onceInOrder hd he) record
  rw [← same]
  exact reads_record written (fun e _ => known e) onceInOrder shape defaults

theorem reads_field {α : Type} {read : List Char → Except Stop (Parsed α)} {written : List Char}
    {a : α} (h : Reads read written a) (name : String) (set : σ → α → σ) (before : σ) :
    Reads ((Field.of name read set).read before) written (set before a) := by
  intro space rest hs hr
  simp only [Field.of, h space rest hs hr]
  rfl

end Records

end HeaderNotes.Settings.Reader

import HeaderNotes.Proofs.Header.Grammar

/-!
The letters `async` in front of a name. Methods and arrow functions with a single parameter are
read twice: first with these letters taken off, whether or not a blank stands behind them, then as
they are. An `async` that is a word of its own is so never taken for a name. But a longer word that
starts with the same letters loses them, unless what is left of it is no name, or is a reserved one.
-/

namespace HeaderNotes.Header

open HeaderNotes.Text

/-- A character that may start an identifier and any number of those that may continue it. -/
inductive Identifier : List Char → Prop
  | mk {c : Char} {more : List Char} (hc : isIdentifierStart c)
      (hmore : ∀ d ∈ more, isIdentifierRest d) : Identifier (c :: more)

instance : (word : List Char) → Decidable (Identifier word)
  | [] => isFalse nofun
  | c :: more =>
    decidable_of_iff (isIdentifierStart c ∧ more.all isIdentifierRest)
      ⟨fun h => .mk h.1 (List.all_eq_true.mp h.2),
        fun | .mk hc hmore => ⟨hc, List.all_eq_true.mpr hmore⟩⟩

/-- Statement words, which name no method. -/
def Reserved (word : List Char) : Prop :=
  String.ofList word ∈ reservedNames

instance (word : List Char) : Decidable (Reserved word) :=
  inferInstanceAs (Decidable (String.ofList word ∈ reservedNames))

/-- A word of some class, alone or behind an `async` that is a word of its own. -/
inductive Lead (IsWord : List Char → Prop) : List Char → Prop
  | plain {word : List Char} (hw : IsWord word) : Lead IsWord word
  | marked {gap word : List Char} (hg : Word isBlank gap) (hw : IsWord word) :
      Lead IsWord ("async".toList ++ (gap ++ word))

/-- Reads a text with an `async` taken off its front, and as it is if that fails. -/
def asyncFirst? (read : List Char → Option Signature) (cs : List Char) : Option Signature :=
  (keyword? "async" cs).bind (fun plain => read (skipBlanks plain)) <|> read cs

theorem bareMethod?_eq (cs : List Char) : bareMethod? cs = asyncFirst? plainMethod? cs := rfl

theorem arrowSingleParam?_eq (cs : List Char) :
    arrowSingleParam? cs =
      (binding? cs).bind fun bound => asyncFirst? (singleParameter? bound.1) bound.2 := rfl

section AsyncFirst

variable {read : List Char → Option Signature} {cs rest : List Char} {s : Signature}

/-- The reading without the `async` decides, if it succeeds whenever the other one does. -/
theorem asyncFirst?_eq_first
    (h : ∀ s, read ("async".toList ++ rest) = some s → (read (skipBlanks rest)).isSome) :
    asyncFirst? read ("async".toList ++ rest) = read (skipBlanks rest) := by
  rw [asyncFirst?, keyword?_append, Option.bind_some]
  cases hfirst : read (skipBlanks rest) with
  | some s => rfl
  | none =>
      cases hsecond : read ("async".toList ++ rest) with
      | none => rfl
      | some s => simpa [hfirst] using h s hsecond

theorem asyncFirst?_of_none
    (h : ∀ rest, cs = "async".toList ++ rest → read (skipBlanks rest) = none) :
    asyncFirst? read cs = read cs := by
  unfold asyncFirst?
  cases hk : keyword? "async" cs with
  | none => rfl
  | some rest =>
      rw [Option.bind_some, h rest (keyword?_eq_some_iff.mp hk)]
      rfl

theorem asyncFirst?_cases (h : asyncFirst? read cs = some s) :
    (∃ rest, cs = "async".toList ++ rest ∧ read (skipBlanks rest) = some s) ∨
      read cs = some s := by
  simp only [asyncFirst?, Option.orElse_eq_orElse, Option.orElse_eq_or, Option.or_eq_some_iff,
    Option.bind_eq_some_iff] at h
  rcases h with ⟨rest, hk, hr⟩ | ⟨_, hr⟩
  · exact .inl ⟨rest, keyword?_eq_some_iff.mp hk, hr⟩
  · exact .inr hr

/-- The letters of `async` at the front of a word and its end are those of the word. -/
theorem exists_of_async {word plain : List Char} (hr : EndsWord rest)
    (h : word ++ rest = "async".toList ++ plain) :
    ∃ u, word = "async".toList ++ u ∧ plain = u ++ rest := by
  rcases List.append_eq_append_iff.mp h with ⟨letters, hasync, hrest⟩ | ⟨u, hword, hplain⟩
  · cases letters with
    | nil => exact ⟨[], by simpa using hasync.symm, by simpa using hrest.symm⟩
    | cons c letters =>
        -- A letter of `async` would follow the end of the word.
        have hc : isAnyNameChar c :=
          isAnyNameChar_of_all (by decide) c (by rw [hasync]; simp : c ∈ "async".toList)
        have hend : isAnyNameChar c = false := hr c (by simp [hrest])
        simp [hend] at hc
  · exact ⟨u, hword, hplain⟩

/-- What is read behind an `async` makes a lead of its own, or a longer word with it. -/
theorem exists_lead (IsWord : List Char → Prop) {word tail : List Char}
    (longer : ∀ word, IsWord word → IsWord ("async".toList ++ word)) (hw : IsWord word)
    (h : skipBlanks rest = word ++ tail) :
    ∃ lead, Lead IsWord lead ∧ "async".toList ++ rest = lead ++ tail := by
  obtain ⟨blanks, hb, hrest⟩ := exists_leading rest
  rw [h] at hrest
  by_cases ne : blanks = []
  · exact ⟨_, .plain (longer word hw), by simp [hrest, ne]⟩
  · exact ⟨_, .marked ⟨hb, ne⟩ hw, by simp [hrest]⟩

end AsyncFirst

section Method

variable {word rest gap cs parameters : List Char} {s : Signature}

theorem Identifier.startsName (hw : Identifier word) : StartsName word := by
  obtain ⟨hc, _⟩ := hw
  exact ⟨_, _, rfl, isTargetChar_of_isIdentifierStart hc⟩

/-- Identifiers start with characters of ASCII, where the two classes are compared by a table. -/
theorem isIdentifierRest_of_isIdentifierStart {c : Char} (hc : isIdentifierStart c) :
    isIdentifierRest c := by
  have upper : c.isUpper → c.toNat ≤ 90 :=
    fun h => UInt32.le_iff_toNat_le.mp (of_decide_eq_true h).2
  have lower : c.isLower → c.toNat ≤ 122 :=
    fun h => UInt32.le_iff_toNat_le.mp (of_decide_eq_true (Bool.and_eq_true_iff.mp h).2)
  have ascii : c.toNat < 128 := by
    simp only [isIdentifierStart, Bool.or_eq_true, beq_iff_eq] at hc
    rcases hc with (hc | rfl) | rfl
    · rcases Bool.or_eq_true_iff.mp (hc : (c.isUpper || c.isLower) = true) with hc | hc
      · exact Nat.lt_of_le_of_lt (upper hc) (by decide)
      · exact Nat.lt_of_le_of_lt (lower hc) (by decide)
    · decide
    · decide
  have table : ∀ n < 128, isIdentifierStart (Char.ofNat n) → isIdentifierRest (Char.ofNat n) := by
    decide +kernel
  have hrest := table c.toNat ascii
  rw [Char.ofNat_toNat] at hrest
  exact hrest hc

theorem Identifier.all (hw : Identifier word) : ∀ c ∈ word, isIdentifierRest c := by
  obtain ⟨hc, hmore⟩ := hw
  exact List.forall_mem_cons.mpr ⟨isIdentifierRest_of_isIdentifierStart hc, hmore⟩

theorem identifier_async : Identifier "async".toList := by
  decide +kernel

theorem Identifier.async_append (hw : Identifier word) : Identifier ("async".toList ++ word) := by
  have hsync : ∀ c ∈ "sync".toList, isIdentifierRest c :=
    List.all_eq_true.mp (by decide +kernel)
  exact .mk (by decide) (List.forall_mem_append.mpr ⟨hsync, hw.all⟩)

theorem Identifier.identifier?_append (hw : Identifier word) (hr : EndsWord rest) :
    identifier? (word ++ rest) = some (word, rest) := by
  obtain ⟨hc, hmore⟩ := hw
  have hp : ∀ c, isIdentifierRest c → Header.isAnyNameChar c := by
    intro c hrest
    simp [Header.isAnyNameChar, hrest]
  simp [identifier?, hc, List.takeWhile_append_of_pos hmore, List.dropWhile_append_of_pos hmore,
    hr.takeWhile_eq hp, hr.dropWhile_eq hp]

theorem plainMethod?_append (hw : Identifier word) (hr : EndsWord rest) :
    plainMethod? (word ++ rest) =
      if Reserved word then none else parametersAndBrace? word rest := by
  simp only [plainMethod?, hw.identifier?_append hr, Option.bind_eq_bind, Option.bind_some,
    List.contains_iff_mem]
  rfl

theorem plainMethod?_eq_some (h : plainMethod? cs = some s) :
    Identifier s.name ∧ ∃ call, Call s.parameters call ∧ cs = s.name ++ call := by
  simp only [plainMethod?, Option.bind_eq_bind, Option.bind_eq_some_iff, Prod.exists,
    Option.ite_none_left_eq_some] at h
  obtain ⟨name, call, hn, _, hp⟩ := h
  obtain ⟨rfl, c, more, rfl, hc, hmore⟩ := identifier?_eq_some hn
  obtain ⟨hname, hcall⟩ := parametersAndBrace?_eq_some_iff.mp hp
  rw [hname]
  exact ⟨.mk hc hmore, call, hcall, rfl⟩

/-- What is left of an identifier names a method only if it is an identifier and not reserved. -/
theorem identifier_of_plainMethod? {u : List Char} (hu : ∀ c ∈ u, isIdentifierRest c)
    (hr : (skipBlanks rest).head? = some '(') (h : plainMethod? (skipBlanks (u ++ rest)) = some s) :
    Identifier u ∧ ¬ Reserved u := by
  cases u with
  | nil => exact absurd hr ((plainMethod?_startsName h).head?_ne (by decide))
  | cons c more =>
      obtain ⟨hc, hmore⟩ := List.forall_mem_cons.mp hu
      have hblank : isBlank c = false :=
        not_isBlank_of_isAnyNameChar (by simp [isAnyNameChar, hc])
      have hskip : skipBlanks (c :: more ++ rest) = c :: more ++ rest := by
        simp [skipBlanks, hblank]
      rw [hskip] at h
      have hends : EndsWord rest := .of_mark hr (by decide)
      obtain ⟨hname, call, _, hcut⟩ := plainMethod?_eq_some h
      have hid : Identifier (c :: more) := by
        generalize s.name = name at hname hcut
        obtain ⟨hstart, _⟩ := hname
        obtain ⟨rfl, _⟩ := List.cons.inj hcut
        exact .mk hstart hmore
      refine ⟨hid, fun hres => ?_⟩
      rw [plainMethod?_append hid hends, if_pos hres] at h
      simp at h

/-- Behind an `async` of its own the name is read as if the `async` were not there. -/
theorem bareMethod?_marked (hg : Word isBlank gap) (hs : StartsName cs) :
    bareMethod? ("async".toList ++ (gap ++ cs)) = plainMethod? cs := by
  have hskip := skipBlanks_name hg.all hs
  rw [bareMethod?_eq, asyncFirst?_eq_first, hskip]
  -- As a name the `async` would need a parenthesis behind the gap.
  intro s hread
  rw [plainMethod?_append identifier_async (.of_gap hg cs), Option.ite_none_left_eq_some] at hread
  have hparen := head?_of_parametersAndBrace? hread.2
  rw [hskip] at hparen
  exact absurd hparen (hs.head?_ne (by decide))

/-- A word that starts with the letters of `async` is read without them if a name is left. -/
theorem bareMethod?_cut {u : List Char} (hu : Identifier u) (hres : ¬ Reserved u)
    (hr : EndsWord rest) :
    bareMethod? ("async".toList ++ (u ++ rest)) = parametersAndBrace? u rest := by
  have hskip : skipBlanks (u ++ rest) = u ++ rest := (hu.startsName.append rest).skipBlanks_eq
  have hfirst : plainMethod? (skipBlanks (u ++ rest)) = parametersAndBrace? u rest := by
    rw [hskip, plainMethod?_append hu hr, if_neg hres]
  rw [bareMethod?_eq, asyncFirst?_eq_first, hfirst]
  intro s hread
  rw [← List.append_assoc, plainMethod?_append hu.async_append hr,
    Option.ite_none_left_eq_some] at hread
  have hcall := (parametersAndBrace?_eq_some_iff.mp hread.2).2
  rw [hfirst, hcall.parametersAndBrace?_eq]
  rfl

theorem bareMethod?_whole (hw : Identifier word) (hr : (skipBlanks rest).head? = some '(')
    (whole : ¬ ∃ u, word = "async".toList ++ u ∧ Identifier u ∧ ¬ Reserved u) :
    bareMethod? (word ++ rest) =
      if Reserved word then none else parametersAndBrace? word rest := by
  have hends : EndsWord rest := .of_mark hr (by decide)
  rw [bareMethod?_eq, asyncFirst?_of_none, plainMethod?_append hw hends]
  intro plain heq
  obtain ⟨u, rfl, rfl⟩ := exists_of_async hends heq
  rw [Option.eq_none_iff_forall_ne_some]
  intro s hread
  have hu : ∀ c ∈ u, isIdentifierRest c := fun c hc => hw.all c (List.mem_append_right _ hc)
  exact whole ⟨u, rfl, identifier_of_plainMethod? hu hr hread⟩

theorem exists_methodLead (h : bareMethod? cs = some s) :
    ∃ lead call, Lead Identifier lead ∧ Call s.parameters call ∧ cs = lead ++ call := by
  rw [bareMethod?_eq] at h
  rcases asyncFirst?_cases h with ⟨rest, rfl, hread⟩ | hread
  · obtain ⟨hname, call, hcall, hcut⟩ := plainMethod?_eq_some hread
    obtain ⟨lead, hlead, heq⟩ := exists_lead Identifier
      (fun _ => Identifier.async_append) hname hcut
    exact ⟨lead, call, hlead, hcall, heq⟩
  · obtain ⟨hname, call, hcall, hcut⟩ := plainMethod?_eq_some hread
    exact ⟨s.name, call, .plain hname, hcall, hcut⟩

/-- An identifier in front of the parameters names the method as it stands, unless an identifier
is left behind the letters of `async` that is not reserved. -/
theorem bareMethod?_name_eq_iff (hw : Identifier word) (hr : (skipBlanks rest).head? = some '(')
    (h : bareMethod? (word ++ rest) = some s) :
    s.name = word ↔ ¬ ∃ u, word = "async".toList ++ u ∧ Identifier u ∧ ¬ Reserved u := by
  constructor
  · rintro hname ⟨u, rfl, hu, hres⟩
    rw [List.append_assoc, bareMethod?_cut hu hres (.of_mark hr (by decide))] at h
    rw [(parametersAndBrace?_eq_some_iff.mp h).1] at hname
    exact absurd (List.self_eq_append_left.mp hname) (by decide)
  · intro whole
    rw [bareMethod?_whole hw hr whole, Option.ite_none_left_eq_some] at h
    exact (parametersAndBrace?_eq_some_iff.mp h.2).1

end Method

section Parameter

variable {name word rest gap cs body : List Char} {s : Signature}

theorem Word.right {p : Char → Bool} {front : List Char} (hw : Word p (front ++ word))
    (ne : word ≠ []) : Word p word :=
  ⟨fun c hc => hw.all c (List.mem_append_right front hc), ne⟩

theorem longer_word (hw : Word isNameChar word) : Word isNameChar ("async".toList ++ word) :=
  ⟨List.forall_mem_append.mpr ⟨List.all_eq_true.mp (by decide), hw.all⟩, by simp⟩

theorem singleParameter?_append (hw : Word isNameChar word) (hr : EndsWord rest) :
    singleParameter? name (word ++ rest) =
      if opensArrowBody rest then some ⟨name, word⟩ else none := by
  simp only [singleParameter?, run?_append (fun _ => isAnyNameChar_of_isNameChar) hw hr,
    Option.bind_eq_bind, Option.bind_some]

theorem singleParameter?_eq_some (h : singleParameter? name cs = some s) :
    s.name = name ∧ Word isNameChar s.parameters ∧
      ∃ body, ArrowBody body ∧ cs = s.parameters ++ body := by
  simp only [singleParameter?, Option.bind_eq_bind, Option.bind_eq_some_iff, Prod.exists,
    Option.ite_none_right_eq_some, Option.some.injEq] at h
  obtain ⟨parameter, body, hn, ho, rfl⟩ := h
  obtain ⟨rfl, hw⟩ := run?_eq_some hn
  exact ⟨rfl, hw, body, opensArrowBody_iff.mp ho, rfl⟩

theorem singleParameter?_startsName (h : singleParameter? name cs = some s) : StartsName cs := by
  obtain ⟨_, hw, body, _, rfl⟩ := singleParameter?_eq_some h
  exact hw.startsName.append body

theorem parameter_marked (hg : Word isBlank gap) (hs : StartsName cs) :
    asyncFirst? (singleParameter? name) ("async".toList ++ (gap ++ cs)) =
      singleParameter? name cs := by
  have hskip := skipBlanks_name hg.all hs
  rw [asyncFirst?_eq_first, hskip]
  -- As a parameter the `async` would need an arrow behind the gap.
  intro s hread
  rw [singleParameter?_append (by decide : Word isNameChar "async".toList) (.of_gap hg cs),
    Option.ite_none_right_eq_some] at hread
  have harrow := head?_of_opensArrowBody hread.1
  rw [hskip] at harrow
  exact absurd harrow (hs.head?_ne (by decide))

theorem parameter_cut {u : List Char} (hu : Word isNameChar u) (hr : EndsWord rest) :
    asyncFirst? (singleParameter? name) ("async".toList ++ (u ++ rest)) =
      singleParameter? name (u ++ rest) := by
  have hskip := (hu.startsName.append rest).skipBlanks_eq
  rw [asyncFirst?_eq_first, hskip]
  intro s hread
  rw [← List.append_assoc, singleParameter?_append (longer_word hu) hr,
    Option.ite_none_right_eq_some] at hread
  simp [hskip, singleParameter?_append hu hr, hread.1]

theorem parameter_whole (hr : (skipBlanks rest).head? = some '=')
    (whole : ¬ ∃ u, word = "async".toList ++ u ∧ u ≠ []) :
    asyncFirst? (singleParameter? name) (word ++ rest) = singleParameter? name (word ++ rest) := by
  apply asyncFirst?_of_none
  intro plain heq
  obtain ⟨u, hword, rfl⟩ := exists_of_async (.of_mark hr (by decide)) heq
  obtain rfl : u = [] := by_contra fun ne => whole ⟨u, hword, ne⟩
  rw [Option.eq_none_iff_forall_ne_some]
  intro s hread
  exact (singleParameter?_startsName hread).head?_ne (by decide) hr

theorem exists_parameterLead (h : asyncFirst? (singleParameter? name) cs = some s) :
    s.name = name ∧ ∃ lead body, Lead (Word isNameChar) lead ∧ ArrowBody body ∧
      cs = lead ++ body := by
  rcases asyncFirst?_cases h with ⟨rest, rfl, hread⟩ | hread
  · obtain ⟨hname, hw, body, ha, hcut⟩ := singleParameter?_eq_some hread
    obtain ⟨lead, hlead, heq⟩ := exists_lead (Word isNameChar) (fun _ => longer_word) hw hcut
    exact ⟨hname, lead, body, hlead, ha, heq⟩
  · obtain ⟨hname, hw, body, ha, hcut⟩ := singleParameter?_eq_some hread
    exact ⟨hname, s.parameters, body, .plain hw, ha, hcut⟩

/-- A word in front of the arrow is the parameter as it stands, unless it goes on behind the
letters of `async`. -/
theorem parameter_eq_iff (hw : Word isNameChar word) (hr : (skipBlanks rest).head? = some '=')
    (h : asyncFirst? (singleParameter? name) (word ++ rest) = some s) :
    s.parameters = word ↔ ¬ ∃ u, word = "async".toList ++ u ∧ u ≠ [] := by
  have hends : EndsWord rest := .of_mark hr (by decide)
  constructor
  · rintro hparameter ⟨u, rfl, ne⟩
    have hu := hw.right ne
    rw [List.append_assoc, parameter_cut hu hends, singleParameter?_append hu hends,
      Option.ite_none_right_eq_some, Option.some.injEq] at h
    obtain ⟨_, rfl⟩ := h
    exact absurd (List.self_eq_append_left.mp hparameter) (by decide)
  · intro whole
    rw [parameter_whole hr whole, singleParameter?_append hw hends,
      Option.ite_none_right_eq_some, Option.some.injEq] at h
    rw [← h.2]

end Parameter

section Line

variable {line : String}

/-- Lines in the shape of a method, with a text in front of the parameters that is still to be
read. -/
def MethodLine (line : String) (indentation lead parameters : List Char) : Prop :=
  Blanks indentation ∧ ∃ call, Call parameters call ∧ line.toList = indentation ++ (lead ++ call)

/-- Lines in the shape of an arrow function with a single parameter, with a text in front of the
arrow that is still to be read. -/
def ParameterLine (line : String) (indentation name lead : List Char) : Prop :=
  Blanks indentation ∧ ∃ binding body, Binding name binding ∧ ArrowBody body ∧
    line.toList = indentation ++ (binding ++ (lead ++ body))

/-- The name that the text in front of the parameters gives a method, if it gives one. -/
inductive MethodLead : List Char → Option (List Char) → Prop
  /-- The identifier behind an `async` of its own is the name, unless it is reserved. -/
  | marked {gap word : List Char} (hg : Word isBlank gap) (hw : Identifier word) :
      MethodLead ("async".toList ++ (gap ++ word)) (if Reserved word then none else some word)
  /-- An identifier loses the letters of `async` if one that is not reserved is left. -/
  | cut {u : List Char} (hu : Identifier u) (hres : ¬ Reserved u) :
      MethodLead ("async".toList ++ u) (some u)
  /-- Any other identifier is the name, unless it is reserved. -/
  | whole {word : List Char} (hw : Identifier word)
      (whole : ¬ ∃ u, word = "async".toList ++ u ∧ Identifier u ∧ ¬ Reserved u) :
      MethodLead word (if Reserved word then none else some word)

/-- The parameter that the text in front of the arrow gives an arrow function. -/
inductive ParameterLead : List Char → List Char → Prop
  /-- The word behind an `async` of its own is the parameter. -/
  | marked {gap word : List Char} (hg : Word isBlank gap) (hw : Word isNameChar word) :
      ParameterLead ("async".toList ++ (gap ++ word)) word
  /-- A word loses the letters of `async` if it goes on behind them. -/
  | cut {u : List Char} (hu : Word isNameChar u) : ParameterLead ("async".toList ++ u) u
  /-- Any other word is the parameter. -/
  | whole {word : List Char} (hw : Word isNameChar word)
      (whole : ¬ ∃ u, word = "async".toList ++ u ∧ u ≠ []) : ParameterLead word word

theorem startsName_async (rest : List Char) : StartsName ("async".toList ++ rest) :=
  ⟨'a', _, rfl, by decide⟩

section MethodLine

variable {lead : List Char} {name? : Option (List Char)}

theorem MethodLead.startsName (hl : MethodLead lead name?) : StartsName lead := by
  cases hl with
  | marked | cut => exact startsName_async _
  | whole hw => exact hw.startsName

theorem MethodLead.bareMethod?_eq {p call : List Char} (hl : MethodLead lead name?)
    (hc : Call p call) : bareMethod? (lead ++ call) = name?.map fun name => ⟨name, p⟩ := by
  cases hl with
  | marked hg hw =>
      rw [List.append_assoc, List.append_assoc,
        bareMethod?_marked hg (hw.startsName.append call), plainMethod?_append hw hc.endsWord,
        hc.parametersAndBrace?_eq]
      split <;> rfl
  | cut hu hres =>
      rw [List.append_assoc, bareMethod?_cut hu hres hc.endsWord, hc.parametersAndBrace?_eq]
      rfl
  | whole hw whole =>
      have hparen := head?_of_parametersAndBrace? (hc.parametersAndBrace?_eq lead)
      rw [bareMethod?_whole hw hparen whole, hc.parametersAndBrace?_eq]
      split <;> rfl

theorem exists_methodLead_iff : Lead Identifier lead ↔ ∃ name?, MethodLead lead name? := by
  constructor
  · intro hl
    cases hl with
    | marked hg hw => exact ⟨_, .marked hg hw⟩
    | plain hw =>
        by_cases hcut : ∃ u, lead = "async".toList ++ u ∧ Identifier u ∧ ¬ Reserved u
        · obtain ⟨u, rfl, hu, hres⟩ := hcut
          exact ⟨_, .cut hu hres⟩
        · exact ⟨_, .whole hw hcut⟩
  · rintro ⟨name?, hl⟩
    cases hl with
    | marked hg hw => exact .marked hg hw
    | cut hu => exact .plain hu.async_append
    | whole hw => exact .plain hw

theorem methodLine_of_ofLineAs? {h : Header} (hl : ofLineAs? .bareMethod line = some h) :
    ∃ lead, Lead Identifier lead ∧
      MethodLine line h.indentation.toList lead h.parameters.toList := by
  obtain ⟨_, hi, body, hline, hs⟩ := exists_body hl
  obtain ⟨lead, call, hlead, hcall, rfl⟩ := exists_methodLead hs
  exact ⟨lead, hlead, hi, call, hcall, hline⟩

theorem MethodLine.ofLineAs?_eq {i p : List Char} (h : MethodLine line i lead p)
    (hl : MethodLead lead name?) :
    ofLineAs? .bareMethod line =
      name?.map fun name => ⟨.ofList i, .ofList name, .ofList p, .bareMethod⟩ := by
  obtain ⟨hi, call, hc, hline⟩ := h
  rw [ofLineAs?_eq_map .bareMethod hi (hl.startsName.append call) hline, signature?,
    hl.bareMethod?_eq hc, Option.map_map]
  rfl

end MethodLine

section ParameterLine

variable {name lead parameter : List Char}

theorem ParameterLead.startsName (hl : ParameterLead lead parameter) : StartsName lead := by
  cases hl with
  | marked | cut => exact startsName_async _
  | whole hw => exact hw.startsName

theorem ParameterLead.asyncFirst?_eq {body : List Char} (hl : ParameterLead lead parameter)
    (ha : ArrowBody body) :
    asyncFirst? (singleParameter? name) (lead ++ body) = some ⟨name, parameter⟩ := by
  have ho := opensArrowBody_iff.mpr ha
  cases hl with
  | marked hg hw =>
      rw [List.append_assoc, List.append_assoc, parameter_marked hg (hw.startsName.append body),
        singleParameter?_append hw ha.endsWord, if_pos ho]
  | cut hu =>
      rw [List.append_assoc, parameter_cut hu ha.endsWord,
        singleParameter?_append hu ha.endsWord, if_pos ho]
  | whole hw whole =>
      rw [parameter_whole (head?_of_opensArrowBody ho) whole,
        singleParameter?_append hw ha.endsWord, if_pos ho]

theorem exists_parameterLead_iff :
    Lead (Word isNameChar) lead ↔ ∃ parameter, ParameterLead lead parameter := by
  constructor
  · intro hl
    cases hl with
    | marked hg hw => exact ⟨_, .marked hg hw⟩
    | plain hw =>
        by_cases hcut : ∃ u, lead = "async".toList ++ u ∧ u ≠ []
        · obtain ⟨u, rfl, ne⟩ := hcut
          exact ⟨_, .cut (hw.right ne)⟩
        · exact ⟨_, .whole hw hcut⟩
  · rintro ⟨parameter, hl⟩
    cases hl with
    | marked hg hw => exact .marked hg hw
    | cut hu => exact .plain (longer_word hu)
    | whole hw => exact .plain hw

/-- A line that is read as an arrow function with a single parameter is cut behind its equals sign
and the blanks that follow it. -/
theorem exists_value {h : Header} (hl : ofLineAs? .arrowSingleParam line = some h) :
    ∃ binding value, Blanks h.indentation.toList ∧ Binding h.name.toList binding ∧
      line.toList = h.indentation.toList ++ (binding ++ value) ∧ skipBlanks value = value ∧
      asyncFirst? (singleParameter? h.name.toList) value =
        some ⟨h.name.toList, h.parameters.toList⟩ := by
  obtain ⟨_, hi, body, hline, hs⟩ := exists_body hl
  rw [signature?, arrowSingleParam?_eq, Option.bind_eq_some_iff] at hs
  obtain ⟨⟨name, value⟩, hb, hread⟩ := hs
  obtain ⟨binding, hbinding, rfl⟩ := exists_binding hb
  rw [hbinding.binding?_append] at hb
  have hskip : skipBlanks value = value := (Prod.mk.inj (Option.some.inj hb)).2
  have hname : h.name.toList = name := (exists_parameterLead hread).1
  rw [hname]
  rw [hname] at hread
  exact ⟨binding, value, hi, hbinding, hline, hskip, hread⟩

theorem ParameterLine.ofLineAs?_eq {i : List Char} (h : ParameterLine line i name lead)
    (hl : ParameterLead lead parameter) :
    ofLineAs? .arrowSingleParam line =
      some ⟨.ofList i, .ofList name, .ofList parameter, .arrowSingleParam⟩ := by
  obtain ⟨hi, binding, body, hb, ha, hline⟩ := h
  have hbound := hb.binding?_append (lead ++ body)
  rw [(hl.startsName.append body).skipBlanks_eq] at hbound
  rw [ofLineAs?_eq_map .arrowSingleParam hi (binding?_startsName hbound) hline, signature?,
    arrowSingleParam?_eq, hbound, Option.bind_some, hl.asyncFirst?_eq ha]
  rfl

theorem ofLineAs?_arrowSingleParam_iff {h : Header} :
    ofLineAs? .arrowSingleParam line = some h ↔ h.kind = .arrowSingleParam ∧
      ∃ lead, ParameterLead lead h.parameters.toList ∧
        ParameterLine line h.indentation.toList h.name.toList lead := by
  constructor
  · intro hl
    obtain ⟨binding, value, hi, hbinding, hline, _, hread⟩ := exists_value hl
    obtain ⟨_, lead, body, hlead, ha, rfl⟩ := exists_parameterLead hread
    obtain ⟨parameter, hp⟩ := exists_parameterLead_iff.mp hlead
    rw [hp.asyncFirst?_eq ha, Option.some.injEq, Signature.mk.injEq] at hread
    rw [← hread.2]
    exact ⟨(exists_body hl).1, lead, hp, hi, binding, body, hbinding, ha, hline⟩
  · rintro ⟨hk, lead, hp, hline⟩
    rw [hline.ofLineAs?_eq hp, ← hk]
    simp

end ParameterLine

/-- Methods and arrow functions with a single parameter are read by what stands in front of the
parameters or the arrow: an `async` of its own does not count, and one at the front of a longer
word is cut off wherever a name is left. -/
theorem async_readings (line : String) :
    ((∀ h, ofLineAs? .bareMethod line = some h → ∃ lead, Lead Identifier lead ∧
        MethodLine line h.indentation.toList lead h.parameters.toList) ∧
      (∀ lead, Lead Identifier lead ↔ ∃ name?, MethodLead lead name?) ∧
      ∀ i lead name? p, MethodLead lead name? → MethodLine line i lead p →
        ofLineAs? .bareMethod line =
          name?.map fun name => ⟨.ofList i, .ofList name, .ofList p, .bareMethod⟩) ∧
    (∀ h, ofLineAs? .arrowSingleParam line = some h ↔ h.kind = .arrowSingleParam ∧
        ∃ lead, ParameterLead lead h.parameters.toList ∧
          ParameterLine line h.indentation.toList h.name.toList lead) ∧
      ∀ lead, Lead (Word isNameChar) lead ↔ ∃ parameter, ParameterLead lead parameter := by
  refine ⟨⟨fun h => methodLine_of_ofLineAs?, fun lead => exists_methodLead_iff, ?_⟩,
    fun h => ofLineAs?_arrowSingleParam_iff, fun lead => exists_parameterLead_iff⟩
  intro i lead name? p hl hline
  exact hline.ofLineAs?_eq hl

theorem async_readings_sample :
    ofLineAs? .bareMethod "\tasync  if (x) \x7b\n" = none ∧
      ofLineAs? .arrowSingleParam "let f = async9 => \x7b\n" =
        some ⟨"", "f", "9", .arrowSingleParam⟩ := by
  obtain ⟨⟨_, _, methods⟩, _⟩ := async_readings "\tasync  if (x) \x7b\n"
  obtain ⟨_, arrows, _⟩ := async_readings "let f = async9 => \x7b\n"
  have brace : Brace ([' '] ++ '\x7b' :: ['\n']) := .mk (by decide) (by decide)
  have call : Call ['x'] ([' '] ++ '(' :: (['x'] ++ ')' :: ([' '] ++ '\x7b' :: ['\n']))) :=
    .mk (by decide) (by decide) brace
  have reserved : MethodLead ("async".toList ++ ("  ".toList ++ "if".toList)) none :=
    .marked (by decide) (by decide +kernel)
  have binding : Binding ['f'] ("let".toList ++ ([' '] ++ (['f'] ++ ([' '] ++ '=' :: [' '])))) :=
    .mk (by decide) (by decide) (by decide) (by decide) (by decide)
  have body : ArrowBody ([' '] ++ ("=>".toList ++ ([' '] ++ '\x7b' :: ['\n']))) :=
    .mk (by decide) brace
  have digit : ParameterLead ("async".toList ++ ['9']) ['9'] := .cut (by decide)
  exact ⟨methods ['\t'] _ _ _ reserved ⟨by decide, _, call, by decide⟩,
    (arrows _).mpr ⟨rfl, _, digit, by decide, _, _, binding, body, by decide⟩⟩

example :
    (["async(x) \x7b", "async if(x) \x7b", "asyncif(x) \x7b", "async9(x) \x7b",
      "asyncAll(x) \x7b"].map fun line => (ofLineAs? .bareMethod line).map Header.name) =
      [some "async", none, some "asyncif", some "async9", some "All"] := by
  decide +kernel

theorem Binding.exists_equals {name binding : List Char} (hb : Binding name binding) :
    ∃ front behind, '=' ∉ front ∧ Blanks behind ∧ binding = front ++ '=' :: behind := by
  obtain ⟨hw, hg, hn, hbefore, hbehind⟩ := hb
  rename_i word gap before behind
  refine ⟨word.toList ++ (gap ++ (name ++ before)), behind, ?_, hbehind, by simp⟩
  have inWord : ∀ word ∈ ["const", "let", "var"], '=' ∉ word.toList := by decide
  simp only [List.mem_append, not_or]
  refine ⟨inWord word hw, fun hm => ?_, fun hm => ?_, fun hm => ?_⟩
  · exact absurd (hg.all _ hm) (by decide)
  · exact absurd (hn.all _ hm) (by decide)
  · exact absurd (hbefore _ hm) (by decide)

/-- The value of an arrow function stands behind the first equals sign of its line. -/
theorem value_behind_equals {h : Header} {front tail : List Char}
    (hl : ofLineAs? .arrowSingleParam line = some h) (hfront : '=' ∉ front)
    (hline : line.toList = front ++ '=' :: tail) :
    asyncFirst? (singleParameter? h.name.toList) (skipBlanks tail) =
      some ⟨h.name.toList, h.parameters.toList⟩ := by
  obtain ⟨binding, value, hi, hbinding, hcut, hskip, hread⟩ := exists_value hl
  obtain ⟨front', behind, hfront', hbehind, rfl⟩ := hbinding.exists_equals
  have hbefore : '=' ∉ h.indentation.toList ++ front' := by
    simp only [List.mem_append, not_or]
    exact ⟨fun hm => absurd (hi _ hm) (by decide), hfront'⟩
  have hequals : line.toList = (h.indentation.toList ++ front') ++ '=' :: (behind ++ value) := by
    simpa using hcut
  have htail : '=' :: tail = '=' :: (behind ++ value) := by
    rw [← (span_mark hfront tail).2, ← (span_mark hbefore (behind ++ value)).2, ← hline, hequals]
  rw [(List.cons.inj htail).2, skipBlanks_append hbehind, hskip]
  exact hread

/-- An identifier in front of the parameters of a method is its name, and a word in front of an
arrow its parameter, exactly if it is not cut behind the letters of `async`. -/
theorem word_kept_iff {h : Header} (hl : ofLine? line = some h) :
    (h.kind = .bareMethod → ∀ i word gap rest, Blanks i → Identifier word → Blanks gap →
      line.toList = i ++ (word ++ (gap ++ '(' :: rest)) →
      (h.name.toList = word ↔
        ¬ ∃ u, word = "async".toList ++ u ∧ Identifier u ∧ ¬ Reserved u)) ∧
    (h.kind = .arrowSingleParam → ∀ front gap word gap' rest, '=' ∉ front → Blanks gap →
      Word isNameChar word → Blanks gap' →
      line.toList = front ++ '=' :: (gap ++ (word ++ (gap' ++ ("=>".toList ++ rest)))) →
      (h.parameters.toList = word ↔ ¬ ∃ u, word = "async".toList ++ u ∧ u ≠ [])) := by
  have hkind := ofLineAs?_kind hl
  refine ⟨?_, ?_⟩
  · intro hk i word gap rest hi hw hg hline
    have hparen : (skipBlanks (gap ++ '(' :: rest)).head? = some '(' := by
      rw [skipBlanks_mark hg (by decide), List.head?_cons]
    rw [hk, ofLineAs?_eq_map .bareMethod hi (hw.startsName.append _) hline,
      Option.map_eq_some_iff] at hkind
    obtain ⟨s, hread, rfl⟩ := hkind
    simpa using bareMethod?_name_eq_iff hw hparen hread
  · intro hk front gap word gap' rest hfront hg hw hg' hline
    rw [hk] at hkind
    have hread := value_behind_equals hkind hfront hline
    rw [skipBlanks_name hg (hw.startsName.append _)] at hread
    have harrow : (skipBlanks (gap' ++ '=' :: '>' :: rest)).head? = some '=' := by
      rw [skipBlanks_mark hg' (by decide), List.head?_cons]
    exact parameter_eq_iff hw harrow hread

theorem word_kept_iff_sample :
    (ofLine? "asyncif(x) \x7b\n" = some ⟨"", "asyncif", "x", .bareMethod⟩ ∧
      ¬ ∃ u, "asyncif".toList = "async".toList ++ u ∧ Identifier u ∧ ¬ Reserved u) ∧
    ofLine? "let f = async => \x7b\n" = some ⟨"", "f", "async", .arrowSingleParam⟩ ∧
      ¬ ∃ u, "async".toList = "async".toList ++ u ∧ u ≠ [] := by
  have method : ofLine? "asyncif(x) \x7b\n" = some ⟨"", "asyncif", "x", .bareMethod⟩ := by
    decide +kernel
  have arrow : ofLine? "let f = async => \x7b\n" =
      some ⟨"", "f", "async", .arrowSingleParam⟩ := by
    decide +kernel
  have kept := (word_kept_iff method).1 rfl [] "asyncif".toList [] "x) \x7b\n".toList
    (by decide) (by decide +kernel) (by decide) (by decide)
  have kept' := (word_kept_iff arrow).2 rfl "let f ".toList " ".toList "async".toList " ".toList
    " \x7b\n".toList (by decide) (by decide) (by decide) (by decide) (by decide)
  exact ⟨⟨method, kept.mp rfl⟩, arrow, kept'.mp rfl⟩

/-- A method and a parameter whose names start with the letters of `async` are reported without
them. -/
theorem async_letters_lost :
    (Identifier "asyncHandler".toList ∧
      ofLine? "asyncHandler(req) \x7b\n" = some ⟨"", "Handler", "req", .bareMethod⟩) ∧
    Word isNameChar "asyncValue".toList ∧
      ofLine? "let f = asyncValue => \x7b\n" = some ⟨"", "f", "Value", .arrowSingleParam⟩ := by
  decide +kernel

end Line

end HeaderNotes.Header

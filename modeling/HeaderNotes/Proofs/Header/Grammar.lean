import HeaderNotes.Proofs.Header.Lookahead

/-!
The grammar of header lines. Six of the kinds are read in one way only: a line is a header of such a
kind exactly if it can be written in the form of the kind, and then the form leaves no choice of
indentation, name and parameters. For each step of the readers the lemmas below say which texts it
accepts; those that take a longest run are complete because of what has to follow it.
-/

namespace HeaderNotes.Header

open HeaderNotes.Text

/-- Blanks only, perhaps none. -/
def Blanks (cs : List Char) : Prop :=
  ∀ c ∈ cs, isBlank c

instance (cs : List Char) : Decidable (Blanks cs) :=
  decidable_of_iff (cs.all isBlank) List.all_eq_true

/-- An opening brace among blanks. -/
inductive Brace : List Char → Prop
  | mk {before behind : List Char} (hbefore : Blanks before) (hbehind : Blanks behind) :
      Brace (before ++ '\x7b' :: behind)

/-- Parameters in parentheses and an opening brace, among blanks. -/
inductive Call (parameters : List Char) : List Char → Prop
  | mk {before rest : List Char} (hbefore : Blanks before) (hp : ')' ∉ parameters)
      (hrest : Brace rest) : Call parameters (before ++ '(' :: (parameters ++ ')' :: rest))

/-- An arrow and an opening brace, among blanks. -/
inductive ArrowBody : List Char → Prop
  | mk {before rest : List Char} (hbefore : Blanks before) (hrest : Brace rest) :
      ArrowBody (before ++ ("=>".toList ++ rest))

/-- An `async` with blanks behind it, or nothing. -/
inductive Marker : List Char → Prop
  | absent : Marker []
  | present {blanks : List Char} (hb : Blanks blanks) : Marker ("async".toList ++ blanks)

/-- The front of a binding: `const NAME =` with blanks behind it, or with another binding word. -/
inductive Binding (name : List Char) : List Char → Prop
  | mk {word : String} {gap before behind : List Char} (hw : word ∈ ["const", "let", "var"])
      (hg : Word isBlank gap) (hn : Word isNameChar name) (hbefore : Blanks before)
      (hbehind : Blanks behind) :
      Binding name (word.toList ++ (gap ++ (name ++ (before ++ '=' :: behind))))

/-- A function without a name: `function(PARAMETERS) {`, perhaps behind an `async`. -/
inductive FunctionValue (parameters : List Char) : List Char → Prop
  | mk {marker call : List Char} (hm : Marker marker) (hc : Call parameters call) :
      FunctionValue parameters (marker ++ ("function".toList ++ call))

/-- The texts that are headers of a kind, behind the indentation, for the six kinds that are read
in one way only. -/
inductive Form : Kind → Signature → List Char → Prop
  | declaration {gap name parameters call : List Char} (hg : Word isBlank gap)
      (hn : Word isNameChar name) (hc : Call parameters call) :
      Form .declaration ⟨name, parameters⟩ ("function".toList ++ (gap ++ (name ++ call)))
  | asyncDeclaration {gap cs : List Char} {s : Signature} (hg : Word isBlank gap)
      (hd : Form .declaration s cs) :
      Form .asyncDeclaration s ("async".toList ++ (gap ++ cs))
  | exported {gap cs : List Char} {s : Signature} (hg : Word isBlank gap)
      (hd : Form .declaration s cs) :
      Form .exportedDeclaration s ("export".toList ++ (gap ++ cs))
  | exportedDefault {gap gap' cs : List Char} {s : Signature} (hg : Word isBlank gap)
      (hg' : Word isBlank gap') (hd : Form .declaration s cs) :
      Form .exportedDeclaration s
        ("export".toList ++ (gap ++ ("default".toList ++ (gap' ++ cs))))
  | arrow {name binding marker parameters body : List Char} (hb : Binding name binding)
      (hm : Marker marker) (hp : ')' ∉ parameters) (ha : ArrowBody body) :
      Form .arrow ⟨name, parameters⟩
        (binding ++ (marker ++ '(' :: (parameters ++ ')' :: body)))
  | assignedExpression {target before behind parameters value : List Char}
      (hn : Word isTargetChar target) (hbefore : Blanks before) (hbehind : Blanks behind)
      (hv : FunctionValue parameters value) :
      Form .assignedExpression ⟨target, parameters⟩
        (target ++ (before ++ ("=".toList ++ (behind ++ value))))
  | objectMethod {key before behind parameters value : List Char} (hn : Word isNameChar key)
      (hbefore : Blanks before) (hbehind : Blanks behind) (hv : FunctionValue parameters value) :
      Form .objectMethod ⟨key, parameters⟩
        (key ++ (before ++ (":".toList ++ (behind ++ value))))

/-- The lines that a header can be written as. -/
def Written (h : Header) (line : String) : Prop :=
  Blanks h.indentation.toList ∧ ∃ body, line.toList = h.indentation.toList ++ body ∧
    Form h.kind ⟨h.name.toList, h.parameters.toList⟩ body

section Steps

variable {cs rest name parameters : List Char}

theorem blanks_leadingBlanks (cs : List Char) : Blanks (leadingBlanks cs) :=
  fun _ hc => List.mem_takeWhile_imp hc

theorem exists_leading (cs : List Char) :
    ∃ blanks, Blanks blanks ∧ cs = blanks ++ skipBlanks cs :=
  ⟨leadingBlanks cs, blanks_leadingBlanks cs, (leadingBlanks_append_skipBlanks cs).symm⟩

theorem skipBlanks_mark {blanks : List Char} (hb : Blanks blanks) {mark : Char}
    (hm : isBlank mark = false) (rest : List Char) :
    skipBlanks (blanks ++ mark :: rest) = mark :: rest := by
  rw [skipBlanks_append hb]
  simp [skipBlanks, hm]

theorem not_isBlank_of_isAnyNameChar {c : Char} (hc : isAnyNameChar c) : isBlank c = false := by
  cases hb : isBlank c with
  | false => rfl
  | true => simp [not_isAnyNameChar_of_isBlank hb] at hc

theorem StartsName.skipBlanks_eq (h : StartsName cs) : skipBlanks cs = cs := by
  obtain ⟨c, rest, rfl, hc⟩ := h
  simp [skipBlanks, not_isBlank_of_isAnyNameChar (isAnyNameChar_of_isTargetChar hc)]

theorem StartsName.append {word : List Char} (h : StartsName word) (rest : List Char) :
    StartsName (word ++ rest) := by
  obtain ⟨c, more, rfl, hc⟩ := h
  exact ⟨c, more ++ rest, rfl, hc⟩

theorem Word.startsName (hw : Word isNameChar name) : StartsName name := by
  obtain ⟨c, more, rfl⟩ := List.exists_cons_of_ne_nil hw.ne_nil
  exact ⟨c, more, rfl, isTargetChar_of_isNameChar (hw.all c List.mem_cons_self)⟩

theorem EndsWord.behind_blanks {blanks : List Char} (hb : Blanks blanks) {mark : Char}
    (hm : isAnyNameChar mark = false) (rest : List Char) :
    EndsWord (blanks ++ mark :: rest) := by
  cases blanks with
  | nil =>
      intro c hc
      obtain rfl : mark = c := by simpa using hc
      exact hm
  | cons c more => exact .of_isBlank (hb c List.mem_cons_self) _

theorem EndsWord.of_gap {gap : List Char} (hg : Word isBlank gap) (rest : List Char) :
    EndsWord (gap ++ rest) := by
  obtain ⟨c, more, rfl⟩ := List.exists_cons_of_ne_nil hg.ne_nil
  exact .of_isBlank (hg.all c List.mem_cons_self) _

theorem skipBlanks_name {blanks : List Char} (hb : Blanks blanks) (hs : StartsName rest) :
    skipBlanks (blanks ++ rest) = rest := by
  rw [skipBlanks_append hb, hs.skipBlanks_eq]

theorem keyword?_append (word : String) (rest : List Char) :
    keyword? word (word.toList ++ rest) = some rest :=
  keyword?_eq_some_iff.mpr rfl

theorem gap?_word {gap : List Char} (hg : Word isBlank gap) (hs : StartsName rest) :
    gap? (gap ++ rest) = some rest := by
  rw [gap?_append hg.all hg.ne_nil, hs.skipBlanks_eq]

/-- A word that is followed by no further character of a name is read whole. -/
theorem run?_append {p : Char → Bool} (hp : ∀ c, p c → isAnyNameChar c) (hw : Word p name)
    (hr : EndsWord rest) : run? p (name ++ rest) = some (name, rest) := by
  obtain ⟨c, more, rfl⟩ := List.exists_cons_of_ne_nil hw.ne_nil
  obtain ⟨hc, hmore⟩ := List.forall_mem_cons.mp hw.all
  simp [run?, hc, List.takeWhile_append_of_pos hmore, List.dropWhile_append_of_pos hmore,
    hr.takeWhile_eq hp, hr.dropWhile_eq hp]

/-- A mark is found behind a text in which it does not occur. -/
theorem span_mark {mark : Char} {front : List Char} (hf : mark ∉ front) (rest : List Char) :
    (front ++ mark :: rest).takeWhile (· != mark) = front ∧
      (front ++ mark :: rest).dropWhile (· != mark) = mark :: rest := by
  have inside : ∀ c ∈ front, (c != mark) = true := by
    intro c hc
    simp only [bne_iff_ne]
    rintro rfl
    exact hf hc
  simp [List.takeWhile_append_of_pos inside, List.dropWhile_append_of_pos inside]

theorem parameters?_append (hp : ')' ∉ parameters) (rest : List Char) :
    parameters? ('(' :: (parameters ++ ')' :: rest)) = some (parameters, rest) := by
  obtain ⟨htake, hdrop⟩ := span_mark hp rest
  simp [parameters?, htake, hdrop]

theorem not_mem_of_parameters? (h : parameters? cs = some (parameters, rest)) :
    ')' ∉ parameters := by
  unfold parameters? at h
  split at h
  · split at h
    · simp only [Option.some.injEq, Prod.mk.injEq] at h
      obtain ⟨rfl, _⟩ := h
      intro hm
      simpa using List.mem_takeWhile_imp hm
    · simp at h
  · simp at h

theorem opensBlock_iff : opensBlock cs ↔ Brace cs := by
  constructor
  · intro h
    unfold opensBlock at h
    split at h
    · rename_i rest hskip
      rw [← leadingBlanks_append_skipBlanks cs, hskip]
      exact .mk (blanks_leadingBlanks cs) (List.all_eq_true.mp h)
    · simp at h
  · rintro ⟨hbefore, hbehind⟩
    rw [opensBlock, skipBlanks_mark hbefore (by decide)]
    exact List.all_eq_true.mpr hbehind

theorem opensArrowBody_iff : opensArrowBody cs ↔ ArrowBody cs := by
  constructor
  · intro h
    unfold opensArrowBody at h
    split at h
    · rename_i rest hk
      rw [← leadingBlanks_append_skipBlanks cs, keyword?_eq_some_iff.mp hk]
      exact .mk (blanks_leadingBlanks cs) (opensBlock_iff.mp h)
    · simp at h
  · rintro ⟨hbefore, hrest⟩
    rename_i before rest
    have hskip : skipBlanks (before ++ ("=>".toList ++ rest)) = "=>".toList ++ rest :=
      skipBlanks_mark hbefore (by decide) _
    rw [opensArrowBody, hskip, keyword?_append]
    exact opensBlock_iff.mpr hrest

theorem parametersAndBrace?_eq_some_iff {s : Signature} :
    parametersAndBrace? name cs = some s ↔ s.name = name ∧ Call s.parameters cs := by
  constructor
  · intro h
    simp only [parametersAndBrace?, Option.bind_eq_bind, Option.bind_eq_some_iff, Prod.exists,
      Option.ite_none_right_eq_some, Option.some.injEq] at h
    obtain ⟨parameters, rest, hp, ho, rfl⟩ := h
    refine ⟨rfl, ?_⟩
    rw [← leadingBlanks_append_skipBlanks cs, parameters?_eq_some hp]
    exact .mk (blanks_leadingBlanks cs) (not_mem_of_parameters? hp) (opensBlock_iff.mp ho)
  · obtain ⟨name', parameters⟩ := s
    rintro ⟨rfl, hbefore, hp, hrest⟩
    rw [parametersAndBrace?, skipBlanks_mark hbefore (by decide), parameters?_append hp]
    simp [opensBlock_iff.mpr hrest]

theorem Call.parametersAndBrace?_eq (hc : Call parameters cs) (name : List Char) :
    parametersAndBrace? name cs = some ⟨name, parameters⟩ :=
  parametersAndBrace?_eq_some_iff.mpr ⟨rfl, hc⟩

theorem Call.endsWord (hc : Call parameters cs) : EndsWord cs := by
  obtain ⟨hbefore, _, _⟩ := hc
  exact .behind_blanks hbefore (by decide) _

theorem ArrowBody.endsWord (ha : ArrowBody cs) : EndsWord cs := by
  obtain ⟨hbefore, _⟩ := ha
  exact .behind_blanks hbefore (by decide) _

theorem exists_marker (cs : List Char) : ∃ marker, Marker marker ∧ cs = marker ++ skipAsync cs := by
  unfold skipAsync
  split
  · rename_i rest hk
    refine ⟨"async".toList ++ leadingBlanks rest, .present (blanks_leadingBlanks rest), ?_⟩
    rw [keyword?_eq_some_iff.mp hk, List.append_assoc, leadingBlanks_append_skipBlanks]
  · exact ⟨[], .absent, rfl⟩

/-- What follows the marker is found if it does not itself look like the marker or a blank. -/
theorem Marker.skipAsync_append {marker : List Char} (hm : Marker marker) {c : Char}
    (ha : c ≠ 'a') (hb : isBlank c = false) (rest : List Char) :
    skipAsync (marker ++ c :: rest) = c :: rest := by
  cases hm with
  | absent =>
      unfold skipAsync
      split
      · rename_i hk
        -- An `async` here would start with the character itself.
        have := head?_of_keyword? hk (c := 'a') rfl
        simp [ha] at this
      · rfl
  | present hblanks =>
      rw [skipAsync, List.append_assoc, keyword?_append]
      exact skipBlanks_mark hblanks hb rest

theorem exists_binding (h : binding? cs = some (name, rest)) :
    ∃ binding, Binding name binding ∧ cs = binding ++ rest := by
  simp only [binding?, Option.bind_eq_bind, Option.bind_eq_some_iff, Prod.exists,
    Option.some.injEq, Prod.mk.injEq] at h
  obtain ⟨after, hk, spaced, hg, name', more, hn, tail, he, rfl, rfl⟩ := h
  obtain ⟨word, hword, hk⟩ := exists_bindingWord hk
  obtain ⟨gap, hgap, rfl⟩ := gap?_eq_some hg
  obtain ⟨rfl, hw⟩ := run?_eq_some hn
  obtain ⟨before, hbefore, hmore⟩ := exists_leading more
  obtain ⟨behind, hbehind, htail⟩ := exists_leading tail
  refine ⟨_, .mk hword hgap hw hbefore hbehind, ?_⟩
  have hequals : more = before ++ '=' :: (behind ++ skipBlanks tail) := by
    rw [← htail]
    exact hmore.trans (congrArg (before ++ ·) (keyword?_eq_some_iff.mp he))
  rw [keyword?_eq_some_iff.mp hk]
  nth_rewrite 1 [hequals]
  simp only [List.append_assoc, List.cons_append]

theorem bindingWord_append {word : String} (hw : word ∈ ["const", "let", "var"])
    (rest : List Char) :
    (keyword? "const" (word.toList ++ rest) <|> keyword? "let" (word.toList ++ rest) <|>
      keyword? "var" (word.toList ++ rest)) = some rest := by
  simp only [List.mem_cons, List.not_mem_nil, or_false] at hw
  rcases hw with rfl | rfl | rfl <;> rfl

theorem Binding.binding?_append {binding : List Char} (hb : Binding name binding)
    (rest : List Char) : binding? (binding ++ rest) = some (name, skipBlanks rest) := by
  obtain ⟨hw, hg, hn, hbefore, hbehind⟩ := hb
  rename_i word gap before behind
  have hstart : StartsName (name ++ (before ++ '=' :: (behind ++ rest))) :=
    hn.startsName.append _
  have hname := run?_append (fun _ => isAnyNameChar_of_isNameChar) hn
    (.behind_blanks hbefore (by decide : isAnyNameChar '=' = false) (behind ++ rest))
  have hequals : skipBlanks (before ++ '=' :: (behind ++ rest)) =
      "=".toList ++ (behind ++ rest) := skipBlanks_mark hbefore (by decide) _
  simp only [List.append_assoc, List.cons_append, binding?, bindingWord_append hw,
    Option.bind_eq_bind, Option.bind_some, gap?_word hg hstart, hname, hequals, keyword?_append,
    skipBlanks_append hbehind]

end Steps

section Kinds

variable {cs : List Char} {s : Signature}

theorem declaration?_form (h : declaration? cs = some s) : Form .declaration s cs := by
  simp only [declaration?, Option.bind_eq_bind, Option.bind_eq_some_iff, Prod.exists] at h
  obtain ⟨rest, hk, spaced, hg, name, call, hn, hp⟩ := h
  obtain ⟨gap, hgap, rfl⟩ := gap?_eq_some hg
  obtain ⟨rfl, hw⟩ := run?_eq_some hn
  obtain ⟨rfl, hc⟩ := parametersAndBrace?_eq_some_iff.mp hp
  rw [keyword?_eq_some_iff.mp hk]
  exact .declaration hgap hw hc

theorem functionValue?_eq_some_iff {name : List Char} :
    functionValue? name cs = some s ↔ s.name = name ∧ FunctionValue s.parameters cs := by
  constructor
  · intro h
    simp only [functionValue?, Option.bind_eq_bind, Option.bind_eq_some_iff] at h
    obtain ⟨call, hk, hp⟩ := h
    obtain ⟨rfl, hc⟩ := parametersAndBrace?_eq_some_iff.mp hp
    obtain ⟨marker, hm, hcs⟩ := exists_marker cs
    rw [hcs, keyword?_eq_some_iff.mp hk]
    exact ⟨rfl, .mk hm hc⟩
  · obtain ⟨name', parameters⟩ := s
    rintro ⟨rfl, hm, hc⟩
    rename_i marker call
    have hskip : skipAsync (marker ++ ("function".toList ++ call)) = "function".toList ++ call :=
      hm.skipAsync_append (by decide) (by decide) _
    simp only [functionValue?, hskip, keyword?_append, Option.bind_eq_bind, Option.bind_some,
      hc.parametersAndBrace?_eq]

/-- A name of some class, a mark among blanks, and a function value. -/
theorem markedValue_form {p : Char → Bool} {mark : String} {name rest tail : List Char}
    (hn : run? p cs = some (name, rest)) (hm : keyword? mark (skipBlanks rest) = some tail)
    (hf : functionValue? name (skipBlanks tail) = some s) :
    s.name = name ∧ ∃ before behind value, Word p name ∧ Blanks before ∧ Blanks behind ∧
      FunctionValue s.parameters value ∧
      cs = name ++ (before ++ (mark.toList ++ (behind ++ value))) := by
  obtain ⟨rfl, hw⟩ := run?_eq_some hn
  obtain ⟨before, hbefore, hrest⟩ := exists_leading rest
  obtain ⟨behind, hbehind, htail⟩ := exists_leading tail
  obtain ⟨hname, hv⟩ := functionValue?_eq_some_iff.mp hf
  refine ⟨hname, before, behind, _, hw, hbefore, hbehind, hv, ?_⟩
  rw [← htail, ← keyword?_eq_some_iff.mp hm, ← hrest]

/-- A text that is read as a header of a kind has the form of this kind. -/
theorem form_of_signature? {kind : Kind} (hk : kind ∉ [.arrowSingleParam, .bareMethod])
    (h : signature? kind cs = some s) : Form kind s cs := by
  cases kind with
  | declaration => exact declaration?_form h
  | asyncDeclaration =>
      simp only [signature?, asyncDeclaration?, Option.bind_eq_bind,
        Option.bind_eq_some_iff] at h
      obtain ⟨rest, hk, spaced, hg, hd⟩ := h
      obtain ⟨gap, hgap, rfl⟩ := gap?_eq_some hg
      rw [keyword?_eq_some_iff.mp hk]
      exact .asyncDeclaration hgap (declaration?_form hd)
  | exportedDeclaration =>
      simp only [signature?, exportedDeclaration?, Option.bind_eq_bind,
        Option.bind_eq_some_iff] at h
      obtain ⟨rest, hk, spaced, hg, hd⟩ := h
      obtain ⟨gap, hgap, rfl⟩ := gap?_eq_some hg
      rw [keyword?_eq_some_iff.mp hk]
      split at hd
      · rename_i after hdefault
        obtain ⟨spaced', hg', hd'⟩ := Option.bind_eq_some_iff.mp hd
        obtain ⟨gap', hgap', rfl⟩ := gap?_eq_some hg'
        rw [keyword?_eq_some_iff.mp hdefault]
        exact .exportedDefault hgap hgap' (declaration?_form hd')
      · exact .exported hgap (declaration?_form hd)
  | arrow =>
      simp only [signature?, arrow?, Option.bind_eq_bind, Option.bind_eq_some_iff, Prod.exists,
        Option.ite_none_right_eq_some, Option.some.injEq] at h
      obtain ⟨name, value, hb, parameters, body, hp, ho, rfl⟩ := h
      obtain ⟨binding, hbinding, rfl⟩ := exists_binding hb
      obtain ⟨marker, hm, hvalue⟩ := exists_marker value
      rw [hvalue, parameters?_eq_some hp]
      exact .arrow hbinding hm (not_mem_of_parameters? hp) (opensArrowBody_iff.mp ho)
  | assignedExpression =>
      simp only [signature?, assignedExpression?, Option.bind_eq_bind, Option.bind_eq_some_iff,
        Prod.exists] at h
      obtain ⟨target, rest, hn, tail, hm, hf⟩ := h
      obtain ⟨rfl, before, behind, value, hw, hbefore, hbehind, hv, rfl⟩ :=
        markedValue_form hn hm hf
      exact .assignedExpression hw hbefore hbehind hv
  | objectMethod =>
      simp only [signature?, objectMethod?, Option.bind_eq_bind, Option.bind_eq_some_iff,
        Prod.exists] at h
      obtain ⟨key, rest, hn, tail, hm, hf⟩ := h
      obtain ⟨rfl, before, behind, value, hw, hbefore, hbehind, hv, rfl⟩ :=
        markedValue_form hn hm hf
      exact .objectMethod hw hbefore hbehind hv
  | arrowSingleParam | bareMethod => simp at hk

theorem Form.declaration?_eq (h : Form .declaration s cs) : declaration? cs = some s := by
  obtain ⟨hg, hn, hc⟩ := h
  simp only [declaration?, keyword?_append, Option.bind_eq_bind, Option.bind_some,
    gap?_word hg (hn.startsName.append _),
    run?_append (fun _ => isAnyNameChar_of_isNameChar) hn hc.endsWord, hc.parametersAndBrace?_eq]

theorem not_default_of_declaration? (h : declaration? cs = some s) :
    keyword? "default" cs = none := by
  obtain ⟨rest, hk, _⟩ := Option.bind_eq_some_iff.mp h
  rw [keyword?_eq_some_iff.mp hk]
  rfl

theorem FunctionValue.functionValue?_eq {parameters value : List Char}
    (hv : FunctionValue parameters value) (name : List Char) :
    functionValue? name value = some ⟨name, parameters⟩ :=
  functionValue?_eq_some_iff.mpr ⟨rfl, hv⟩

theorem FunctionValue.startsName {parameters value : List Char}
    (hv : FunctionValue parameters value) : StartsName value := by
  obtain ⟨hm, _⟩ := hv
  cases hm with
  | absent => exact ⟨'f', _, rfl, by decide⟩
  | present => exact ⟨'a', _, rfl, by decide⟩

/-- The three steps that read a name of some class, a mark among blanks, and a function value. -/
theorem markedValue_read {p : Char → Bool} {mark : String} {c : Char}
    {name before behind parameters value : List Char} (hmark : mark.toList = [c])
    (hc : isAnyNameChar c = false) (hb : isBlank c = false) (hp : ∀ c, p c → isAnyNameChar c)
    (hn : Word p name) (hbefore : Blanks before) (hbehind : Blanks behind)
    (hv : FunctionValue parameters value) :
    run? p (name ++ (before ++ (mark.toList ++ (behind ++ value)))) =
        some (name, before ++ (mark.toList ++ (behind ++ value))) ∧
      keyword? mark (skipBlanks (before ++ (mark.toList ++ (behind ++ value)))) =
        some (behind ++ value) ∧
      functionValue? name (skipBlanks (behind ++ value)) = some ⟨name, parameters⟩ := by
  refine ⟨?_, ?_, ?_⟩
  · rw [hmark]
    exact run?_append hp hn (.behind_blanks hbefore hc _)
  · rw [keyword?_eq_some_iff, hmark]
    exact skipBlanks_mark hbefore hb _
  · rw [skipBlanks_name hbehind hv.startsName, hv.functionValue?_eq]

/-- A text in the form of a kind is read as a header of this kind, with the parts of the form. -/
theorem Form.signature?_eq {kind : Kind} (h : Form kind s cs) : signature? kind cs = some s := by
  cases h with
  | declaration hg hn hc => exact (Form.declaration hg hn hc).declaration?_eq
  | asyncDeclaration hg hd =>
      have hread := hd.declaration?_eq
      simp only [signature?, asyncDeclaration?, keyword?_append, Option.bind_eq_bind,
        Option.bind_some, gap?_word hg (declaration?_startsName hread), hread]
  | exported hg hd =>
      -- A declaration starts with its own word, so no `default` is read in front of it.
      have hread := hd.declaration?_eq
      simp only [signature?, exportedDeclaration?, keyword?_append, Option.bind_eq_bind,
        Option.bind_some, gap?_word hg (declaration?_startsName hread),
        not_default_of_declaration? hread, hread]
  | exportedDefault hg hg' hd =>
      have hread := hd.declaration?_eq
      have hstart : ∀ rest, StartsName ("default".toList ++ rest) :=
        fun rest => ⟨'d', _, rfl, by decide⟩
      simp only [signature?, exportedDeclaration?, keyword?_append, Option.bind_eq_bind,
        Option.bind_some, gap?_word hg (hstart _),
        gap?_word hg' (declaration?_startsName hread), hread]
  | @arrow name binding marker parameters body hb hm hp ha =>
      -- Neither the marker nor the parenthesis starts with a blank.
      have hvalue : skipBlanks (marker ++ '(' :: (parameters ++ ')' :: body)) =
          marker ++ '(' :: (parameters ++ ')' :: body) := by
        cases hm with
        | absent => rfl
        | present => rfl
      simp only [signature?, arrow?, hb.binding?_append, hvalue,
        hm.skipAsync_append (c := '(') (by decide) (by decide), parameters?_append hp,
        Option.bind_eq_bind, Option.bind_some, opensArrowBody_iff.mpr ha, if_true]
  | assignedExpression hn hbefore hbehind hv =>
      obtain ⟨hrun, hmark, hvalue⟩ := markedValue_read (rfl : "=".toList = ['='])
        (by decide) (by decide) (fun _ => isAnyNameChar_of_isTargetChar) hn hbefore hbehind hv
      simp only [signature?, assignedExpression?, hrun, hmark, hvalue, Option.bind_eq_bind,
        Option.bind_some]
  | objectMethod hn hbefore hbehind hv =>
      obtain ⟨hrun, hmark, hvalue⟩ := markedValue_read (rfl : ":".toList = [':'])
        (by decide) (by decide) (fun _ => isAnyNameChar_of_isNameChar) hn hbefore hbehind hv
      simp only [signature?, objectMethod?, hrun, hmark, hvalue, Option.bind_eq_bind,
        Option.bind_some]

end Kinds

section Line

variable {kind : Kind} {line : String} {h : Header}

/-- A line is read by its indentation and what follows it, wherever the two are told apart. -/
theorem ofLineAs?_eq_map (kind : Kind) {indentation body : List Char}
    (hi : Blanks indentation) (hs : StartsName body) (hline : line.toList = indentation ++ body) :
    ofLineAs? kind line = (signature? kind body).map fun s =>
      ⟨String.ofList indentation, String.ofList s.name, String.ofList s.parameters, kind⟩ := by
  have hbody : skipBlanks line.toList = body := by
    rw [hline, skipBlanks_name hi hs]
  have hfront : leadingBlanks line.toList = indentation := by
    have hcut := leadingBlanks_append_skipBlanks line.toList
    rw [hbody] at hcut
    exact List.append_cancel_right (hcut.trans hline)
  rw [ofLineAs?, hbody, hfront]

theorem exists_body (hl : ofLineAs? kind line = some h) :
    h.kind = kind ∧ Blanks h.indentation.toList ∧ ∃ body,
      line.toList = h.indentation.toList ++ body ∧
      signature? kind body = some ⟨h.name.toList, h.parameters.toList⟩ := by
  obtain ⟨s, hs, rfl⟩ := Option.map_eq_some_iff.mp hl
  refine ⟨rfl, ?_⟩
  simp only [String.toList_ofList]
  exact ⟨blanks_leadingBlanks _, _, (leadingBlanks_append_skipBlanks _).symm, hs⟩

theorem Written.ofLineAs?_eq (hw : Written h line) : ofLineAs? h.kind line = some h := by
  obtain ⟨hi, body, hline, hf⟩ := hw
  have hread := hf.signature?_eq
  rw [ofLineAs?_eq_map h.kind hi (signature?_startsName hread) hline, hread]
  simp

/-- For the six kinds that are read in one way only, a line is read as a header exactly if it is
written in the form of the kind, and it is so for at most one indentation, name and parameter
list. -/
theorem ofLineAs?_exact (kind : Kind) (hk : kind ∉ [.arrowSingleParam, .bareMethod])
    (line : String) :
    (∀ h, ofLineAs? kind line = some h ↔ h.kind = kind ∧ Written h line) ∧
      ∀ h₁ h₂, h₁.kind = kind → h₂.kind = kind → Written h₁ line → Written h₂ line → h₁ = h₂ := by
  refine ⟨fun h => ⟨fun hl => ?_, ?_⟩, ?_⟩
  · obtain ⟨rfl, hi, body, hline, hs⟩ := exists_body hl
    exact ⟨rfl, hi, body, hline, form_of_signature? hk hs⟩
  · rintro ⟨rfl, hw⟩
    exact hw.ofLineAs?_eq
  · rintro h₁ h₂ hk₁ hk₂ hw₁ hw₂
    -- Both are what the line is read as.
    have h₁' := hw₁.ofLineAs?_eq
    have h₂' := hw₂.ofLineAs?_eq
    rw [hk₁] at h₁'
    rw [hk₂, h₁'] at h₂'
    exact Option.some.inj h₂'

theorem ofLineAs?_exact_sample :
    Written ⟨"\t", "f_1", " a, b ", .exportedDeclaration⟩
        "\texport  default\u00a0function f_1 ( a, b ) \x7b\r\n" ∧
      ∀ h, h.kind = .exportedDeclaration →
        Written h "\texport  default\u00a0function f_1 ( a, b ) \x7b\r\n" →
        h = ⟨"\t", "f_1", " a, b ", .exportedDeclaration⟩ := by
  obtain ⟨exact, unique⟩ := ofLineAs?_exact .exportedDeclaration (by decide)
    "\texport  default\u00a0function f_1 ( a, b ) \x7b\r\n"
  have written := ((exact ⟨"\t", "f_1", " a, b ", .exportedDeclaration⟩).mp (by decide)).2
  exact ⟨written, fun h hk hw => unique h _ hk rfl hw written⟩

end Line

end HeaderNotes.Header

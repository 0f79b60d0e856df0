import HeaderNotes.Header.Basic
import Mathlib.Data.List.TakeWhile
import Mathlib.Tactic.NthRewrite

/-!
Where the parts of a header stand in its line. Whatever the kind of a header, its name and its
parameters are pieces of the line, in this order, with something behind them; and behind its blanks
the line starts with a character of a name. So a header is never blank and never looks like a
comment, and what it hands on to a note comes from in front of the last character of the line.
-/

namespace HeaderNotes.Header

open HeaderNotes.Text

/-- One or more characters of a class. -/
structure Word (p : Char → Bool) (cs : List Char) : Prop where
  all : ∀ c ∈ cs, p c
  ne_nil : cs ≠ []

instance (p : Char → Bool) (cs : List Char) : Decidable (Word p cs) :=
  decidable_of_iff (cs.all p ∧ cs ≠ [])
    ⟨fun h => ⟨List.all_eq_true.mp h.1, h.2⟩, fun h => ⟨List.all_eq_true.mpr h.all, h.ne_nil⟩⟩

theorem after?_eq_some_iff {word cs rest : List Char} :
    after? word cs = some rest ↔ cs = word ++ rest := by
  induction word generalizing cs with
  | nil => simp [after?, eq_comm]
  | cons d word ih =>
      cases cs with
      | nil => simp [after?]
      | cons c cs =>
          simp only [after?, List.cons_append, List.cons.injEq]
          split
          · simp_all
          · simp_all [eq_comm]

theorem keyword?_eq_some_iff {word : String} {cs rest : List Char} :
    keyword? word cs = some rest ↔ cs = word.toList ++ rest :=
  after?_eq_some_iff

theorem exists_blanks (cs : List Char) : ∃ blanks, cs = blanks ++ skipBlanks cs :=
  ⟨leadingBlanks cs, (leadingBlanks_append_skipBlanks cs).symm⟩

theorem skipBlanks_of_allBlank {line : String} (h : allBlank line) :
    skipBlanks line.toList = [] := by
  simpa [skipBlanks, List.dropWhile_eq_nil_iff, allBlank] using h

theorem gap?_eq_some_iff {cs rest : List Char} :
    gap? cs = some rest ↔ ∃ c more, cs = c :: more ∧ isBlank c ∧ skipBlanks more = rest := by
  cases cs with
  | nil => simp [gap?]
  | cons c cs => simp [gap?, and_assoc]

theorem gap?_append {blanks : List Char} (hb : ∀ c ∈ blanks, isBlank c) (ne : blanks ≠ [])
    (cs : List Char) : gap? (blanks ++ cs) = some (skipBlanks cs) := by
  obtain ⟨c, more, rfl⟩ := List.exists_cons_of_ne_nil ne
  obtain ⟨hc, hmore⟩ := List.forall_mem_cons.mp hb
  exact gap?_eq_some_iff.mpr ⟨c, more ++ cs, rfl, hc, skipBlanks_append hmore cs⟩

theorem gap?_eq_some {cs rest : List Char} (h : gap? cs = some rest) :
    ∃ blanks, Word isBlank blanks ∧ cs = blanks ++ rest := by
  obtain ⟨c, more, rfl, hc, rfl⟩ := gap?_eq_some_iff.mp h
  refine ⟨c :: leadingBlanks more, ⟨List.forall_mem_cons.mpr ⟨hc, ?_⟩, by simp⟩, ?_⟩
  · exact fun d hd => List.mem_takeWhile_imp hd
  · simp [leadingBlanks_append_skipBlanks]

theorem run?_eq_some {p : Char → Bool} {cs run rest : List Char}
    (h : run? p cs = some (run, rest)) :
    cs = run ++ rest ∧ Word p run := by
  cases cs with
  | nil => simp [run?] at h
  | cons c cs =>
      simp only [run?, Option.ite_none_right_eq_some, Option.some.injEq, Prod.mk.injEq] at h
      obtain ⟨hc, rfl, rfl⟩ := h
      refine ⟨by simp, ?_, by simp⟩
      intro d hd
      rcases List.mem_cons.mp hd with rfl | hd
      · exact hc
      · exact List.mem_takeWhile_imp hd

theorem identifier?_eq_some {cs name rest : List Char}
    (h : identifier? cs = some (name, rest)) :
    cs = name ++ rest ∧ ∃ c more, name = c :: more ∧ isIdentifierStart c ∧
      ∀ d ∈ more, isIdentifierRest d := by
  cases cs with
  | nil => simp [identifier?] at h
  | cons c cs =>
      simp only [identifier?, Option.ite_none_right_eq_some, Option.some.injEq,
        Prod.mk.injEq] at h
      obtain ⟨hc, rfl, rfl⟩ := h
      exact ⟨by simp, c, _, rfl, hc, fun d hd => List.mem_takeWhile_imp hd⟩

theorem parameters?_eq_some {cs parameters rest : List Char}
    (h : parameters? cs = some (parameters, rest)) :
    cs = '(' :: (parameters ++ ')' :: rest) := by
  unfold parameters? at h
  split at h
  · rename_i cs
    split at h
    · rename_i c tail hd
      simp only [Option.some.injEq, Prod.mk.injEq] at h
      obtain ⟨rfl, rfl⟩ := h
      have hc : c = ')' := by
        have := List.head?_dropWhile_not (· != ')') cs
        simpa [hd] using this
      subst hc
      rw [← hd, List.takeWhile_append_dropWhile]
    · simp at h
  · simp at h

theorem not_opensArrowBody_nil : ¬ opensArrowBody [] := by decide

/-- The name and the parameters stand in the text, in this order, and do not end it. -/
def Signature.PartOf (s : Signature) (cs : List Char) : Prop :=
  ∃ front middle rest, rest ≠ [] ∧ cs = front ++ (s.name ++ (middle ++ (s.parameters ++ rest)))

theorem Signature.PartOf.append_left {s : Signature} {cs : List Char} (h : s.PartOf cs)
    (more : List Char) : s.PartOf (more ++ cs) := by
  obtain ⟨front, middle, rest, ne, rfl⟩ := h
  exact ⟨more ++ front, middle, rest, ne, by simp⟩

theorem Signature.PartOf.of_skipBlanks {s : Signature} {cs : List Char}
    (h : s.PartOf (skipBlanks cs)) : s.PartOf cs := by
  obtain ⟨blanks, hcs⟩ := exists_blanks cs
  rw [hcs]
  exact h.append_left blanks

theorem parametersAndBrace?_partOf {name cs : List Char} {s : Signature}
    (h : parametersAndBrace? name cs = some s) (between : List Char) :
    s.PartOf (name ++ (between ++ cs)) := by
  simp only [parametersAndBrace?, Option.bind_eq_bind, Option.bind_eq_some_iff, Prod.exists,
    Option.ite_none_right_eq_some, Option.some.injEq] at h
  obtain ⟨parameters, rest, hp, _, rfl⟩ := h
  obtain ⟨blanks, hcs⟩ := exists_blanks cs
  rw [parameters?_eq_some hp] at hcs
  exact ⟨[], between ++ (blanks ++ ['(']), ')' :: rest, by simp, by simp [hcs]⟩

theorem declaration?_partOf {cs : List Char} {s : Signature} (h : declaration? cs = some s) :
    s.PartOf cs := by
  simp only [declaration?, Option.bind_eq_bind, Option.bind_eq_some_iff, Prod.exists] at h
  obtain ⟨rest, hk, spaced, hg, name, more, hn, hp⟩ := h
  obtain ⟨blanks, _, rfl⟩ := gap?_eq_some hg
  obtain ⟨rfl, _⟩ := run?_eq_some hn
  rw [keyword?_eq_some_iff.mp hk]
  exact ((parametersAndBrace?_partOf hp []).append_left blanks).append_left _

theorem asyncDeclaration?_partOf {cs : List Char} {s : Signature}
    (h : asyncDeclaration? cs = some s) : s.PartOf cs := by
  simp only [asyncDeclaration?, Option.bind_eq_bind, Option.bind_eq_some_iff] at h
  obtain ⟨rest, hk, spaced, hg, hd⟩ := h
  obtain ⟨blanks, _, rfl⟩ := gap?_eq_some hg
  rw [keyword?_eq_some_iff.mp hk]
  exact ((declaration?_partOf hd).append_left blanks).append_left _

theorem exportedDeclaration?_partOf {cs : List Char} {s : Signature}
    (h : exportedDeclaration? cs = some s) : s.PartOf cs := by
  simp only [exportedDeclaration?, Option.bind_eq_bind, Option.bind_eq_some_iff] at h
  obtain ⟨rest, hk, spaced, hg, hd⟩ := h
  obtain ⟨blanks, _, rfl⟩ := gap?_eq_some hg
  rw [keyword?_eq_some_iff.mp hk]
  refine (Signature.PartOf.append_left ?_ blanks).append_left _
  split at hd
  · rename_i after hdefault
    obtain ⟨spaced', hg', hd'⟩ := Option.bind_eq_some_iff.mp hd
    obtain ⟨blanks', _, rfl⟩ := gap?_eq_some hg'
    rw [keyword?_eq_some_iff.mp hdefault]
    exact ((declaration?_partOf hd').append_left blanks').append_left _
  · exact declaration?_partOf hd

theorem exists_bindingWord {cs rest : List Char}
    (h : (keyword? "const" cs <|> keyword? "let" cs <|> keyword? "var" cs) = some rest) :
    ∃ word ∈ ["const", "let", "var"], keyword? word cs = some rest := by
  simp only [Option.orElse_eq_orElse, Option.orElse_eq_or, Option.or_eq_some_iff] at h
  rcases h with h | ⟨_, h | ⟨_, h⟩⟩
  · exact ⟨"const", by simp, h⟩
  · exact ⟨"let", by simp, h⟩
  · exact ⟨"var", by simp, h⟩

theorem binding?_eq_some {cs name rest : List Char} (h : binding? cs = some (name, rest)) :
    ∃ front between, cs = front ++ (name ++ (between ++ rest)) := by
  simp only [binding?, Option.bind_eq_bind, Option.bind_eq_some_iff, Prod.exists,
    Option.some.injEq, Prod.mk.injEq] at h
  obtain ⟨after, hk, spaced, hg, name', more, hn, tail, he, rfl, rfl⟩ := h
  obtain ⟨blanks, _, rfl⟩ := gap?_eq_some hg
  obtain ⟨rfl, _⟩ := run?_eq_some hn
  obtain ⟨word, _, hk⟩ := exists_bindingWord hk
  obtain rfl := keyword?_eq_some_iff.mp hk
  obtain ⟨blanks₁, hmore⟩ := exists_blanks more
  obtain ⟨blanks₂, htail⟩ := exists_blanks tail
  rw [keyword?_eq_some_iff.mp he] at hmore
  refine ⟨word.toList ++ blanks, blanks₁ ++ ("=".toList ++ blanks₂), ?_⟩
  rw [hmore]
  nth_rewrite 1 [htail]
  simp only [List.append_assoc]

theorem exists_skipAsync (cs : List Char) : ∃ front, cs = front ++ skipAsync cs := by
  unfold skipAsync
  split
  · rename_i rest hk
    obtain ⟨blanks, hrest⟩ := exists_blanks rest
    refine ⟨"async".toList ++ blanks, ?_⟩
    rw [keyword?_eq_some_iff.mp hk, List.append_assoc, ← hrest]
  · exact ⟨[], rfl⟩

theorem arrow?_partOf {cs : List Char} {s : Signature} (h : arrow? cs = some s) :
    s.PartOf cs := by
  simp only [arrow?, Option.bind_eq_bind, Option.bind_eq_some_iff, Prod.exists,
    Option.ite_none_right_eq_some, Option.some.injEq] at h
  obtain ⟨name, bound, hb, parameters, rest, hp, _, rfl⟩ := h
  obtain ⟨front, between, rfl⟩ := binding?_eq_some hb
  obtain ⟨marker, hbound⟩ := exists_skipAsync bound
  rw [parameters?_eq_some hp] at hbound
  exact ⟨front, between ++ (marker ++ ['(']), ')' :: rest, by simp, by simp [hbound]⟩

theorem singleParameter?_partOf {name cs : List Char} {s : Signature}
    (h : singleParameter? name cs = some s) (between : List Char) :
    s.PartOf (name ++ (between ++ cs)) := by
  simp only [singleParameter?, Option.bind_eq_bind, Option.bind_eq_some_iff, Prod.exists,
    Option.ite_none_right_eq_some, Option.some.injEq] at h
  obtain ⟨parameter, rest, hp, ho, rfl⟩ := h
  obtain ⟨rfl, _⟩ := run?_eq_some hp
  refine ⟨[], between, rest, ?_, rfl⟩
  rintro rfl
  exact not_opensArrowBody_nil ho

theorem arrowSingleParam?_partOf {cs : List Char} {s : Signature}
    (h : arrowSingleParam? cs = some s) : s.PartOf cs := by
  simp only [arrowSingleParam?, Option.bind_eq_bind, Option.bind_eq_some_iff, Prod.exists,
    Option.orElse_eq_orElse, Option.orElse_eq_or, Option.or_eq_some_iff] at h
  obtain ⟨name, bound, hb, hs⟩ := h
  obtain ⟨front, between, rfl⟩ := binding?_eq_some hb
  refine Signature.PartOf.append_left ?_ front
  rcases hs with ⟨plain, hk, hs⟩ | ⟨_, hs⟩
  · obtain ⟨blanks, hplain⟩ := exists_blanks plain
    rw [keyword?_eq_some_iff.mp hk, hplain]
    simpa using singleParameter?_partOf hs (between ++ ("async".toList ++ blanks))
  · exact singleParameter?_partOf hs between

theorem functionValue?_partOf {name cs : List Char} {s : Signature}
    (h : functionValue? name cs = some s) (between : List Char) :
    s.PartOf (name ++ (between ++ cs)) := by
  simp only [functionValue?, Option.bind_eq_bind, Option.bind_eq_some_iff] at h
  obtain ⟨rest, hk, hp⟩ := h
  obtain ⟨marker, hcs⟩ := exists_skipAsync cs
  rw [hcs, keyword?_eq_some_iff.mp hk]
  simpa using parametersAndBrace?_partOf hp (between ++ (marker ++ "function".toList))

/-- A name of some class, a mark among blanks, and a function value. -/
theorem markedValue_partOf {p : Char → Bool} {mark : String} {cs name rest tail : List Char}
    {s : Signature} (hn : run? p cs = some (name, rest))
    (hm : keyword? mark (skipBlanks rest) = some tail)
    (hf : functionValue? name (skipBlanks tail) = some s) : s.PartOf cs := by
  obtain ⟨rfl, _⟩ := run?_eq_some hn
  obtain ⟨blanks₁, hrest⟩ := exists_blanks rest
  obtain ⟨blanks₂, htail⟩ := exists_blanks tail
  rw [keyword?_eq_some_iff.mp hm] at hrest
  have h := functionValue?_partOf hf (blanks₁ ++ (mark.toList ++ blanks₂))
  rw [List.append_assoc, List.append_assoc, ← htail, ← hrest] at h
  exact h

theorem assignedExpression?_partOf {cs : List Char} {s : Signature}
    (h : assignedExpression? cs = some s) : s.PartOf cs := by
  simp only [assignedExpression?, Option.bind_eq_bind, Option.bind_eq_some_iff,
    Prod.exists] at h
  obtain ⟨target, rest, hn, tail, hm, hf⟩ := h
  exact markedValue_partOf hn hm hf

theorem objectMethod?_partOf {cs : List Char} {s : Signature}
    (h : objectMethod? cs = some s) : s.PartOf cs := by
  simp only [objectMethod?, Option.bind_eq_bind, Option.bind_eq_some_iff, Prod.exists] at h
  obtain ⟨key, rest, hn, tail, hm, hf⟩ := h
  exact markedValue_partOf hn hm hf

theorem plainMethod?_partOf {cs : List Char} {s : Signature} (h : plainMethod? cs = some s) :
    s.PartOf cs := by
  simp only [plainMethod?, Option.bind_eq_bind, Option.bind_eq_some_iff, Prod.exists,
    Option.ite_none_left_eq_some] at h
  obtain ⟨name, rest, hn, _, hp⟩ := h
  obtain ⟨rfl, _⟩ := identifier?_eq_some hn
  exact parametersAndBrace?_partOf hp []

theorem bareMethod?_partOf {cs : List Char} {s : Signature} (h : bareMethod? cs = some s) :
    s.PartOf cs := by
  simp only [bareMethod?, Option.orElse_eq_orElse, Option.orElse_eq_or, Option.or_eq_some_iff,
    Option.bind_eq_some_iff] at h
  rcases h with ⟨plain, hk, hm⟩ | ⟨_, hm⟩
  · rw [keyword?_eq_some_iff.mp hk]
    exact (plainMethod?_partOf hm).of_skipBlanks.append_left _
  · exact plainMethod?_partOf hm

/-- The parts of a header of any kind stand in the text that it is read from. -/
theorem signature?_partOf {kind : Kind} {cs : List Char} {s : Signature}
    (h : signature? kind cs = some s) : s.PartOf cs := by
  cases kind with
  | declaration => exact declaration?_partOf h
  | asyncDeclaration => exact asyncDeclaration?_partOf h
  | exportedDeclaration => exact exportedDeclaration?_partOf h
  | arrow => exact arrow?_partOf h
  | arrowSingleParam => exact arrowSingleParam?_partOf h
  | assignedExpression => exact assignedExpression?_partOf h
  | objectMethod => exact objectMethod?_partOf h
  | bareMethod => exact bareMethod?_partOf h

/-- The text starts with a character of a name or of an assignment target. -/
def StartsName (cs : List Char) : Prop :=
  ∃ c rest, cs = c :: rest ∧ isTargetChar c

theorem StartsName.of_keyword? {word : String} {cs rest : List Char}
    (hk : keyword? word cs = some rest) (hw : StartsName word.toList) : StartsName cs := by
  obtain ⟨c, more, hc, hn⟩ := hw
  rw [keyword?_eq_some_iff.mp hk, hc]
  exact ⟨c, more ++ rest, rfl, hn⟩

theorem StartsName.of_run? {p : Char → Bool} {cs run rest : List Char}
    (h : run? p cs = some (run, rest)) (hp : ∀ c, p c → isTargetChar c) : StartsName cs := by
  obtain ⟨rfl, hall, ne⟩ := run?_eq_some h
  obtain ⟨c, more, rfl⟩ := List.exists_cons_of_ne_nil ne
  exact ⟨c, more ++ rest, rfl, hp c (hall c List.mem_cons_self)⟩

theorem isTargetChar_of_isIdentifierStart {c : Char} (h : isIdentifierStart c) :
    isTargetChar c := by
  simp only [isIdentifierStart, Bool.or_eq_true] at h
  rcases h with (h | h) | h <;> simp [isTargetChar, isNameChar, Char.isAlphanum, h]

theorem isTargetChar_of_isNameChar {c : Char} (h : isNameChar c) : isTargetChar c := by
  simp [isTargetChar, h]

theorem plainMethod?_startsName {cs : List Char} {s : Signature}
    (h : plainMethod? cs = some s) : StartsName cs := by
  simp only [plainMethod?, Option.bind_eq_bind, Option.bind_eq_some_iff, Prod.exists] at h
  obtain ⟨name, rest, hn, _⟩ := h
  obtain ⟨rfl, c, more, rfl, hc, _⟩ := identifier?_eq_some hn
  exact ⟨c, more ++ rest, rfl, isTargetChar_of_isIdentifierStart hc⟩

theorem declaration?_startsName {cs : List Char} {s : Signature}
    (h : declaration? cs = some s) : StartsName cs := by
  obtain ⟨rest, hk, _⟩ := Option.bind_eq_some_iff.mp h
  exact .of_keyword? hk ⟨'f', _, rfl, by decide⟩

theorem binding?_startsName {cs : List Char} {r : List Char × List Char}
    (h : binding? cs = some r) : StartsName cs := by
  obtain ⟨rest, hk, _⟩ := Option.bind_eq_some_iff.mp h
  obtain ⟨word, hword, hk⟩ := exists_bindingWord hk
  simp only [List.mem_cons, List.not_mem_nil, or_false] at hword
  rcases hword with rfl | rfl | rfl
  · exact .of_keyword? hk ⟨'c', _, rfl, by decide⟩
  · exact .of_keyword? hk ⟨'l', _, rfl, by decide⟩
  · exact .of_keyword? hk ⟨'v', _, rfl, by decide⟩

/-- A header of any kind starts with a character of a name. -/
theorem signature?_startsName {kind : Kind} {cs : List Char} {s : Signature}
    (h : signature? kind cs = some s) : StartsName cs := by
  cases kind with
  | declaration => exact declaration?_startsName h
  | asyncDeclaration =>
      obtain ⟨rest, hk, _⟩ := Option.bind_eq_some_iff.mp h
      exact .of_keyword? hk ⟨'a', _, rfl, by decide⟩
  | exportedDeclaration =>
      obtain ⟨rest, hk, _⟩ := Option.bind_eq_some_iff.mp h
      exact .of_keyword? hk ⟨'e', _, rfl, by decide⟩
  | arrow | arrowSingleParam =>
      obtain ⟨bound, hb, _⟩ := Option.bind_eq_some_iff.mp h
      exact binding?_startsName hb
  | assignedExpression =>
      obtain ⟨target, hn, _⟩ := Option.bind_eq_some_iff.mp h
      exact .of_run? hn fun c hc => hc
  | objectMethod =>
      obtain ⟨key, hn, _⟩ := Option.bind_eq_some_iff.mp h
      exact .of_run? hn fun c hc => isTargetChar_of_isNameChar hc
  | bareMethod =>
      simp only [signature?, bareMethod?, Option.orElse_eq_orElse, Option.orElse_eq_or,
        Option.or_eq_some_iff, Option.bind_eq_some_iff] at h
      rcases h with ⟨plain, hk, _⟩ | ⟨_, hm⟩
      · exact .of_keyword? hk ⟨'a', _, rfl, by decide⟩
      · exact plainMethod?_startsName hm

section Line

variable {line : String} {h : Header}

theorem ofLine?_eq_some (hl : ofLine? line = some h) :
    ∃ kind s, signature? kind (skipBlanks line.toList) = some s ∧
      h = ⟨String.ofList (leadingBlanks line.toList), String.ofList s.name,
        String.ofList s.parameters, kind⟩ := by
  obtain ⟨kind, _, hk⟩ := List.exists_of_findSome?_eq_some hl
  obtain ⟨s, hs, rfl⟩ := Option.map_eq_some_iff.mp hk
  exact ⟨kind, s, hs, rfl⟩

theorem ofLine?_startsName (hl : ofLine? line = some h) :
    StartsName (skipBlanks line.toList) := by
  obtain ⟨kind, s, hs, _⟩ := ofLine?_eq_some hl
  exact signature?_startsName hs

theorem ofLine?_not_allBlank (hl : ofLine? line = some h) : allBlank line = false := by
  obtain ⟨c, rest, hc, _⟩ := ofLine?_startsName hl
  rw [Bool.eq_false_iff]
  intro hb
  simp [skipBlanks_of_allBlank hb] at hc

theorem ofLine?_isBlank_indentation (hl : ofLine? line = some h) {c : Char}
    (hc : c ∈ h.indentation.toList) : isBlank c := by
  obtain ⟨kind, s, _, rfl⟩ := ofLine?_eq_some hl
  exact List.mem_takeWhile_imp (by simpa [leadingBlanks] using hc)

/-- Whatever a header takes from its line stands in front of the last character. -/
theorem ofLine?_mem_dropLast (hl : ofLine? line = some h) {c : Char}
    (hc : c ∈ h.indentation.toList ∨ c ∈ h.name.toList ∨ c ∈ h.parameters.toList) :
    c ∈ line.toList.dropLast := by
  obtain ⟨kind, s, hs, rfl⟩ := ofLine?_eq_some hl
  obtain ⟨front, middle, rest, ne, hcut⟩ := signature?_partOf hs
  have hline := leadingBlanks_append_skipBlanks line.toList
  rw [hcut] at hline
  simp only [String.toList_ofList] at hc
  generalize leadingBlanks line.toList = blanks at hline hc
  have hparts : line.toList =
      (blanks ++ (front ++ (s.name ++ (middle ++ s.parameters)))) ++ rest := by
    simp [← hline]
  rw [hparts, List.dropLast_append_of_ne_nil ne]
  apply List.mem_append_left
  simp only [List.mem_append]
  rcases hc with hc | hc | hc <;> simp [hc]

end Line

end HeaderNotes.Header

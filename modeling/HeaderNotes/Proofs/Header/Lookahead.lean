import HeaderNotes.Proofs.Header.Parts

/-!
The first words of a line tell its kind. Which kind of header a line can be is settled by the first
word behind its indentation and by the mark or the word that follows, so that no line is a header
of two kinds and the order in which the kinds are tried does not matter.
-/

namespace HeaderNotes

namespace Text

theorem Ranges.exists_of_contains {ranges : Ranges} {n : Nat} (h : ranges.contains n) :
    ∃ r ∈ ranges, r.1 ≤ n ∧ n ≤ r.2 := by
  induction ranges with
  | nil => simp [contains] at h
  | cons r rest ih =>
      simp only [contains] at h
      split at h
      · simp at h
      · rename_i hlow
        rcases Bool.or_eq_true_iff.mp h with h | h
        · exact ⟨r, List.mem_cons_self, by omega, by simpa using h⟩
        · obtain ⟨r', hr', hn⟩ := ih h
          exact ⟨r', List.mem_cons_of_mem _ hr', hn⟩

/-- What holds of every code point in the table of blanks holds of every blank. -/
theorem of_isBlank {p : Char → Bool}
    (hp : blankRanges.all fun r =>
      (List.range' r.1 (r.2 + 1 - r.1)).all fun n => p (Char.ofNat n))
    {c : Char} (hc : isBlank c) : p c := by
  obtain ⟨r, hr, hlow, hhigh⟩ := Ranges.exists_of_contains hc
  have hall := List.all_eq_true.mp (List.all_eq_true.mp hp r hr)
  have hn := hall c.toNat (List.mem_range'_1.mpr (by omega))
  rwa [Char.ofNat_toNat] at hn

end Text

namespace Header

open HeaderNotes.Text

/-- Characters that stand in a name of some class: of a function, a target or an identifier. -/
def isAnyNameChar (c : Char) : Bool :=
  isTargetChar c || isIdentifierRest c

theorem not_isAnyNameChar_of_isBlank {c : Char} (h : isBlank c) : isAnyNameChar c = false := by
  have := of_isBlank (p := fun c => !isAnyNameChar c) (by decide +kernel) h
  simpa using this

theorem isAnyNameChar_of_isTargetChar {c : Char} (h : isTargetChar c) : isAnyNameChar c := by
  simp [isAnyNameChar, h]

theorem isAnyNameChar_of_isNameChar {c : Char} (h : isNameChar c) : isAnyNameChar c :=
  isAnyNameChar_of_isTargetChar (isTargetChar_of_isNameChar h)

theorem isAnyNameChar_of_all {word : List Char} (h : word.all isTargetChar) :
    ∀ c ∈ word, isAnyNameChar c :=
  fun c hc => isAnyNameChar_of_isTargetChar (List.all_eq_true.mp h c hc)

/-- The name at the front of a text, as long as it gets. -/
def firstWord (cs : List Char) : List Char :=
  cs.takeWhile isAnyNameChar

/-- What follows the name at the front and the blanks behind it. -/
def afterWord (cs : List Char) : List Char :=
  skipBlanks (cs.dropWhile isAnyNameChar)

/-- No name goes on at the front of the text. -/
def EndsWord (cs : List Char) : Prop :=
  ∀ c ∈ cs.head?, isAnyNameChar c = false

/-- Nothing is taken from the front of the text, of whatever class of names. -/
theorem EndsWord.takeWhile_eq {p : Char → Bool} (hp : ∀ c, p c → isAnyNameChar c)
    {cs : List Char} (h : EndsWord cs) : cs.takeWhile p = [] := by
  cases cs with
  | nil => rfl
  | cons c cs =>
      have hc : ¬ p c := fun hpc => by simpa [h c rfl] using hp c hpc
      simp [hc]

theorem EndsWord.dropWhile_eq {p : Char → Bool} (hp : ∀ c, p c → isAnyNameChar c)
    {cs : List Char} (h : EndsWord cs) : cs.dropWhile p = cs := by
  simpa [h.takeWhile_eq hp] using List.takeWhile_append_dropWhile (p := p) (l := cs)

theorem firstWord_append {word rest : List Char} (hw : ∀ c ∈ word, isAnyNameChar c)
    (hr : EndsWord rest) : firstWord (word ++ rest) = word := by
  rw [firstWord, List.takeWhile_append_of_pos hw, hr.takeWhile_eq fun _ h => h, List.append_nil]

theorem afterWord_append {word : List Char} (hw : ∀ c ∈ word, isAnyNameChar c)
    (rest : List Char) : afterWord (word ++ rest) = afterWord rest := by
  rw [afterWord, List.dropWhile_append_of_pos hw, afterWord]

theorem EndsWord.afterWord_eq {cs : List Char} (h : EndsWord cs) :
    afterWord cs = skipBlanks cs := by
  rw [afterWord, h.dropWhile_eq fun _ hc => hc]

theorem EndsWord.of_isBlank {c : Char} (hc : isBlank c) (cs : List Char) :
    EndsWord (c :: cs) := by
  intro d hd
  obtain rfl : c = d := by simpa using hd
  exact not_isAnyNameChar_of_isBlank hc

/-- A mark behind blanks ends a name. -/
theorem EndsWord.of_mark {cs : List Char} {mark : Char}
    (h : (skipBlanks cs).head? = some mark) (hm : isAnyNameChar mark = false) : EndsWord cs := by
  cases cs with
  | nil => intro c hc; simp at hc
  | cons c cs =>
      by_cases hc : isBlank c
      · exact .of_isBlank hc cs
      · obtain rfl : c = mark := by simpa [skipBlanks, hc] using h
        intro d hd
        obtain rfl : c = d := by simpa using hd
        exact hm

/-- A keyword with a gap behind it is the first word. -/
theorem word_of_gap? {word : String} {cs rest more : List Char}
    (hw : word.toList.all isTargetChar) (hk : keyword? word cs = some rest)
    (hg : gap? rest = some more) : firstWord cs = word.toList ∧ afterWord cs = more := by
  have hw := isAnyNameChar_of_all hw
  obtain ⟨c, tail, rfl, hc, rfl⟩ := gap?_eq_some_iff.mp hg
  obtain rfl := keyword?_eq_some_iff.mp hk
  have ends := EndsWord.of_isBlank hc tail
  refine ⟨firstWord_append hw ends, ?_⟩
  rw [afterWord_append hw, ends.afterWord_eq]
  simp [skipBlanks, hc]

theorem head?_of_keyword? {word : String} {cs rest : List Char}
    (hk : keyword? word cs = some rest) {c : Char} (hc : word.toList.head? = some c) :
    cs.head? = some c := by
  rw [keyword?_eq_some_iff.mp hk, List.head?_append, hc, Option.some_or]

/-- The mark that is found behind a name is the one behind the first word. -/
theorem afterWord_of_mark {word rest : List Char} (hw : ∀ c ∈ word, isAnyNameChar c)
    {mark : Char} (h : (skipBlanks rest).head? = some mark) (hm : isAnyNameChar mark = false) :
    (afterWord (word ++ rest)).head? = some mark := by
  rw [afterWord_append hw, (EndsWord.of_mark h hm).afterWord_eq, h]

theorem head?_of_parametersAndBrace? {name cs : List Char} {s : Signature}
    (h : parametersAndBrace? name cs = some s) : (skipBlanks cs).head? = some '(' := by
  obtain ⟨⟨parameters, rest⟩, hp, _⟩ := Option.bind_eq_some_iff.mp h
  rw [parameters?_eq_some hp]
  rfl

theorem head?_of_opensArrowBody {cs : List Char} (h : opensArrowBody cs) :
    (skipBlanks cs).head? = some '=' := by
  unfold opensArrowBody at h
  split at h
  · rename_i rest hk
    exact head?_of_keyword? hk rfl
  · simp at h

/-- The kind of a header that starts with a word and a name behind it. -/
def kindOfWord (cs : List Char) : Kind :=
  if firstWord cs = "function".toList then .declaration
  else if firstWord cs = "export".toList then .exportedDeclaration
  else if firstWord cs = "async".toList then
    if (afterWord (afterWord cs)).head? = some '(' then .bareMethod else .asyncDeclaration
  else
    match binding? cs with
    | some (_, value) =>
      if (skipAsync value).head? = some '(' then .arrow else .arrowSingleParam
    | none => .arrowSingleParam

/-- The only kind of header that a text can be, told by its first word and what follows it. -/
def lookahead (cs : List Char) : Kind :=
  if (afterWord cs).head? = some '=' then .assignedExpression
  else if (afterWord cs).head? = some ':' then .objectMethod
  else if (afterWord cs).head? = some '(' then .bareMethod
  else kindOfWord cs

theorem StartsName.head?_ne {cs : List Char} (h : StartsName cs) {mark : Char}
    (hm : isTargetChar mark = false) : cs.head? ≠ some mark := by
  obtain ⟨c, rest, rfl, hc⟩ := h
  intro heq
  obtain rfl : c = mark := by simpa using heq
  simp [hm] at hc

theorem lookahead_of_startsName {cs : List Char} (h : StartsName (afterWord cs)) :
    lookahead cs = kindOfWord cs := by
  rw [lookahead, if_neg (h.head?_ne (by decide)), if_neg (h.head?_ne (by decide)),
    if_neg (h.head?_ne (by decide))]

section Kinds

variable {cs : List Char} {s : Signature}

theorem declaration?_words (h : declaration? cs = some s) :
    firstWord cs = "function".toList ∧ StartsName (afterWord cs) := by
  simp only [declaration?, Option.bind_eq_bind, Option.bind_eq_some_iff, Prod.exists] at h
  obtain ⟨rest, hk, spaced, hg, name, more, hn, _⟩ := h
  obtain ⟨hword, rfl⟩ := word_of_gap? (by decide) hk hg
  exact ⟨hword, .of_run? hn fun c hc => isTargetChar_of_isNameChar hc⟩

theorem lookahead_of_declaration? (h : declaration? cs = some s) :
    lookahead cs = .declaration := by
  obtain ⟨hword, hname⟩ := declaration?_words h
  rw [lookahead_of_startsName hname, kindOfWord, if_pos hword]

theorem lookahead_of_asyncDeclaration? (h : asyncDeclaration? cs = some s) :
    lookahead cs = .asyncDeclaration := by
  simp only [asyncDeclaration?, Option.bind_eq_bind, Option.bind_eq_some_iff] at h
  obtain ⟨rest, hk, spaced, hg, hd⟩ := h
  obtain ⟨hword, rfl⟩ := word_of_gap? (by decide) hk hg
  obtain ⟨_, hname⟩ := declaration?_words hd
  rw [lookahead_of_startsName (declaration?_startsName hd), kindOfWord, hword, if_neg (by decide),
    if_neg (by decide), if_pos rfl, if_neg (hname.head?_ne (by decide))]

theorem lookahead_of_exportedDeclaration? (h : exportedDeclaration? cs = some s) :
    lookahead cs = .exportedDeclaration := by
  simp only [exportedDeclaration?, Option.bind_eq_bind, Option.bind_eq_some_iff] at h
  obtain ⟨rest, hk, spaced, hg, hd⟩ := h
  obtain ⟨hword, rfl⟩ := word_of_gap? (by decide) hk hg
  have hstart : StartsName (afterWord cs) := by
    split at hd
    · rename_i hdefault
      exact .of_keyword? hdefault ⟨'d', _, rfl, by decide⟩
    · exact declaration?_startsName hd
  rw [lookahead_of_startsName hstart, kindOfWord, hword, if_neg (by decide), if_pos rfl]

theorem binding?_words {bound : List Char × List Char} (h : binding? cs = some bound) :
    (∃ word ∈ ["const", "let", "var"], firstWord cs = word.toList) ∧
      StartsName (afterWord cs) := by
  simp only [binding?, Option.bind_eq_bind, Option.bind_eq_some_iff, Prod.exists] at h
  obtain ⟨rest, hk, spaced, hg, name, more, hn, _⟩ := h
  obtain ⟨word, hword, hk⟩ := exists_bindingWord hk
  have inName : ∀ word ∈ ["const", "let", "var"], word.toList.all isTargetChar := by decide
  obtain ⟨hfirst, rfl⟩ := word_of_gap? (inName word hword) hk hg
  exact ⟨⟨word, hword, hfirst⟩, .of_run? hn fun c hc => isTargetChar_of_isNameChar hc⟩

/-- Behind a binding the value tells the two kinds of arrow functions apart. -/
theorem lookahead_of_binding? {name value : List Char} (h : binding? cs = some (name, value)) :
    lookahead cs =
      if (skipAsync value).head? = some '(' then .arrow else .arrowSingleParam := by
  obtain ⟨⟨word, hword, hfirst⟩, hstart⟩ := binding?_words h
  have other : ∀ word ∈ ["const", "let", "var"], word.toList ≠ "function".toList ∧
      word.toList ≠ "export".toList ∧ word.toList ≠ "async".toList := by decide
  obtain ⟨h₁, h₂, h₃⟩ := other word hword
  rw [lookahead_of_startsName hstart, kindOfWord, hfirst, if_neg h₁, if_neg h₂, if_neg h₃, h]

theorem lookahead_of_arrow? (h : arrow? cs = some s) : lookahead cs = .arrow := by
  simp only [arrow?, Option.bind_eq_bind, Option.bind_eq_some_iff, Prod.exists] at h
  obtain ⟨name, value, hb, parameters, rest, hp, _⟩ := h
  rw [lookahead_of_binding? hb, if_pos]
  rw [parameters?_eq_some hp]
  rfl

/-- A single parameter is no parameter list, whether or not an `async` is taken off its front. -/
theorem skipAsync_of_singleParameter? {name value : List Char}
    (h : singleParameter? name value = some s) : (skipAsync value).head? ≠ some '(' := by
  simp only [singleParameter?, Option.bind_eq_bind, Option.bind_eq_some_iff, Prod.exists,
    Option.ite_none_right_eq_some] at h
  obtain ⟨parameter, rest, hn, ho, _⟩ := h
  have hstart : StartsName value := .of_run? hn fun c hc => isTargetChar_of_isNameChar hc
  obtain ⟨rfl, hall, _⟩ := run?_eq_some hn
  have harrow : (afterWord (parameter ++ rest)).head? = some '=' :=
    afterWord_of_mark (fun c hc => isAnyNameChar_of_isNameChar (hall c hc))
      (head?_of_opensArrowBody ho) (by decide)
  unfold skipAsync
  split
  · rename_i plain hk
    intro hparen
    -- The mark behind the first word would be a parenthesis, while it is an arrow.
    rw [keyword?_eq_some_iff.mp hk,
      afterWord_of_mark (isAnyNameChar_of_all (by decide)) hparen (by decide)] at harrow
    simp at harrow
  · exact hstart.head?_ne (by decide)

theorem lookahead_of_arrowSingleParam? (h : arrowSingleParam? cs = some s) :
    lookahead cs = .arrowSingleParam := by
  simp only [arrowSingleParam?, Option.bind_eq_bind, Option.bind_eq_some_iff, Prod.exists,
    Option.orElse_eq_orElse, Option.orElse_eq_or, Option.or_eq_some_iff] at h
  obtain ⟨name, value, hb, hs⟩ := h
  rw [lookahead_of_binding? hb, if_neg]
  rcases hs with ⟨plain, hk, hs⟩ | ⟨_, hs⟩
  · obtain ⟨parameter, hn, _⟩ := Option.bind_eq_some_iff.mp hs
    have hstart : StartsName (skipBlanks plain) :=
      .of_run? hn fun c hc => isTargetChar_of_isNameChar hc
    simpa only [skipAsync, hk] using hstart.head?_ne (by decide)
  · exact skipAsync_of_singleParameter? hs

theorem lookahead_of_assignedExpression? (h : assignedExpression? cs = some s) :
    lookahead cs = .assignedExpression := by
  simp only [assignedExpression?, Option.bind_eq_bind, Option.bind_eq_some_iff,
    Prod.exists] at h
  obtain ⟨target, rest, hn, tail, hm, _⟩ := h
  obtain ⟨rfl, hall, _⟩ := run?_eq_some hn
  have hmark : (afterWord (target ++ rest)).head? = some '=' :=
    afterWord_of_mark (fun c hc => isAnyNameChar_of_isTargetChar (hall c hc))
      (head?_of_keyword? hm rfl) (by decide)
  rw [lookahead, if_pos hmark]

theorem lookahead_of_objectMethod? (h : objectMethod? cs = some s) :
    lookahead cs = .objectMethod := by
  simp only [objectMethod?, Option.bind_eq_bind, Option.bind_eq_some_iff, Prod.exists] at h
  obtain ⟨key, rest, hn, tail, hm, _⟩ := h
  obtain ⟨rfl, hall, _⟩ := run?_eq_some hn
  have hmark : (afterWord (key ++ rest)).head? = some ':' :=
    afterWord_of_mark (fun c hc => isAnyNameChar_of_isNameChar (hall c hc))
      (head?_of_keyword? hm rfl) (by decide)
  rw [lookahead, hmark, if_neg (by decide), if_pos rfl]

theorem head?_afterWord_of_plainMethod? (h : plainMethod? cs = some s) :
    (afterWord cs).head? = some '(' := by
  simp only [plainMethod?, Option.bind_eq_bind, Option.bind_eq_some_iff, Prod.exists,
    Option.ite_none_left_eq_some] at h
  obtain ⟨name, rest, hn, _, hp⟩ := h
  obtain ⟨rfl, c, more, rfl, hc, hmore⟩ := identifier?_eq_some hn
  refine afterWord_of_mark ?_ (head?_of_parametersAndBrace? hp) (by decide)
  intro d hd
  rcases List.mem_cons.mp hd with rfl | hd
  · exact isAnyNameChar_of_isTargetChar (isTargetChar_of_isIdentifierStart hc)
  · simp [isAnyNameChar, hmore d hd]

theorem lookahead_of_parenthesis (h : (afterWord cs).head? = some '(') :
    lookahead cs = .bareMethod := by
  rw [lookahead, h, if_neg (by decide), if_neg (by decide), if_pos rfl]

/-- An `async` in front of a name and a parenthesis is that of a method. -/
theorem lookahead_of_async {rest more : List Char} (hk : keyword? "async" cs = some rest)
    (hg : gap? rest = some more) (hname : StartsName more)
    (hparen : (afterWord more).head? = some '(') : lookahead cs = .bareMethod := by
  obtain ⟨hword, rfl⟩ := word_of_gap? (by decide) hk hg
  rw [lookahead_of_startsName hname, kindOfWord, hword, if_neg (by decide),
    if_neg (by decide), if_pos rfl, if_pos hparen]

theorem lookahead_of_bareMethod? (h : bareMethod? cs = some s) :
    lookahead cs = .bareMethod := by
  simp only [bareMethod?, Option.orElse_eq_orElse, Option.orElse_eq_or, Option.or_eq_some_iff,
    Option.bind_eq_some_iff] at h
  rcases h with ⟨plain, hk, hm⟩ | ⟨_, hm⟩
  · have hparen := head?_afterWord_of_plainMethod? hm
    cases plain with
    | nil => simp [skipBlanks, afterWord] at hparen
    | cons c plain =>
        by_cases hc : isBlank c
        · have hskip : skipBlanks (c :: plain) = skipBlanks plain := by simp [skipBlanks, hc]
          rw [hskip] at hparen hm
          exact lookahead_of_async hk (gap?_eq_some_iff.mpr ⟨c, plain, rfl, hc, rfl⟩)
            (plainMethod?_startsName hm) hparen
        · -- Without a blank the letters of `async` belong to the first word.
          have hskip : skipBlanks (c :: plain) = c :: plain := by simp [skipBlanks, hc]
          apply lookahead_of_parenthesis
          rw [keyword?_eq_some_iff.mp hk, afterWord_append (isAnyNameChar_of_all (by decide)),
            ← hskip, hparen]
  · exact lookahead_of_parenthesis (head?_afterWord_of_plainMethod? hm)

/-- A text is a header of no other kind than the one that its first words tell. -/
theorem lookahead_of_signature? {kind : Kind} (h : signature? kind cs = some s) :
    lookahead cs = kind := by
  cases kind with
  | declaration => exact lookahead_of_declaration? h
  | asyncDeclaration => exact lookahead_of_asyncDeclaration? h
  | exportedDeclaration => exact lookahead_of_exportedDeclaration? h
  | arrow => exact lookahead_of_arrow? h
  | arrowSingleParam => exact lookahead_of_arrowSingleParam? h
  | assignedExpression => exact lookahead_of_assignedExpression? h
  | objectMethod => exact lookahead_of_objectMethod? h
  | bareMethod => exact lookahead_of_bareMethod? h

end Kinds

section Line

variable {line : String}

theorem ofLineAs?_eq_some {kind : Kind} {h : Header} (hl : ofLineAs? kind line = some h) :
    h.kind = kind ∧ lookahead (skipBlanks line.toList) = kind := by
  obtain ⟨s, hs, rfl⟩ := Option.map_eq_some_iff.mp hl
  exact ⟨rfl, lookahead_of_signature? hs⟩

theorem ofLineAs?_eq_none {kind : Kind} (hk : kind ≠ lookahead (skipBlanks line.toList)) :
    ofLineAs? kind line = none := by
  cases hl : ofLineAs? kind line with
  | none => rfl
  | some h => exact absurd (ofLineAs?_eq_some hl).2.symm hk

/-- In whatever order kinds are tried, the one that the first words tell decides. -/
theorem findSome?_ofLineAs? {kinds : List Kind}
    (hk : lookahead (skipBlanks line.toList) ∈ kinds) :
    (kinds.findSome? fun kind => ofLineAs? kind line) =
      ofLineAs? (lookahead (skipBlanks line.toList)) line := by
  obtain ⟨before, after, rfl, hbefore⟩ := List.eq_append_cons_of_mem hk
  have none_of : ∀ kinds : List Kind, (∀ kind ∈ kinds, ofLineAs? kind line = none) →
      (kinds.findSome? fun kind => ofLineAs? kind line) = none :=
    fun kinds h => List.findSome?_eq_none_iff.mpr h
  have skipped := none_of before fun kind hkind =>
    ofLineAs?_eq_none fun heq => hbefore (heq ▸ hkind)
  rw [List.findSome?_append, skipped, Option.none_or, List.findSome?_cons]
  cases hl : ofLineAs? (lookahead (skipBlanks line.toList)) line with
  | some h => rfl
  | none =>
      -- The kind may come again further on, and is then tried in vain once more.
      refine none_of after fun kind _ => ?_
      by_cases heq : kind = lookahead (skipBlanks line.toList)
      · rw [heq, hl]
      · exact ofLineAs?_eq_none heq

theorem ofLine?_eq_lookahead (line : String) :
    ofLine? line = ofLineAs? (lookahead (skipBlanks line.toList)) line :=
  findSome?_ofLineAs? (Kind.mem_all _)

theorem ofLineAs?_kind {h : Header} (hl : ofLine? line = some h) :
    ofLineAs? h.kind line = some h := by
  rw [ofLine?_eq_lookahead] at hl
  rwa [(ofLineAs?_eq_some hl).1]

/-- A line is a header of one kind at most. So it is read as a header exactly if it is one of the
kind that is reported, and in whatever order the kinds are tried the result is the same. -/
theorem ofLineAs?_exclusive (line : String) :
    (∀ k₁ k₂, k₁ ≠ k₂ →
      ¬ ((ofLineAs? k₁ line).isSome ∧ (ofLineAs? k₂ line).isSome)) ∧
    (∀ h, ofLine? line = some h ↔ ofLineAs? h.kind line = some h) ∧
    ∀ kinds : List Kind, kinds.Perm Kind.all →
      (kinds.findSome? fun kind => ofLineAs? kind line) = ofLine? line := by
  refine ⟨?_, fun h => ⟨?_, ?_⟩, ?_⟩
  · rintro k₁ k₂ hne ⟨h₁, h₂⟩
    obtain ⟨header₁, h₁⟩ := Option.isSome_iff_exists.mp h₁
    obtain ⟨header₂, h₂⟩ := Option.isSome_iff_exists.mp h₂
    exact hne ((ofLineAs?_eq_some h₁).2.symm.trans (ofLineAs?_eq_some h₂).2)
  · intro hl
    rw [ofLine?_eq_lookahead] at hl
    rwa [(ofLineAs?_eq_some hl).1]
  · intro hl
    rwa [ofLine?_eq_lookahead, (ofLineAs?_eq_some hl).2]
  · intro kinds perm
    rw [findSome?_ofLineAs? (perm.mem_iff.mpr (Kind.mem_all _)), ofLine?_eq_lookahead]

theorem ofLineAs?_exclusive_sample :
    (ofLineAs? .asyncDeclaration "async function f(a) \x7b\n").isSome ∧
      ¬ (ofLineAs? .bareMethod "async function f(a) \x7b\n").isSome ∧
      (Kind.all.reverse.findSome? fun kind => ofLineAs? kind "async function f(a) \x7b\n") =
        ofLine? "async function f(a) \x7b\n" := by
  obtain ⟨exclusive, _, order⟩ := ofLineAs?_exclusive "async function f(a) \x7b\n"
  have found : (ofLineAs? .asyncDeclaration "async function f(a) \x7b\n").isSome := by decide
  exact ⟨found, fun h => exclusive .asyncDeclaration .bareMethod (by decide) ⟨found, h⟩,
    order _ (List.reverse_perm _)⟩

end Line

end Header
end HeaderNotes

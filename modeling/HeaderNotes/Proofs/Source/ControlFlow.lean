import HeaderNotes.Proofs.Header.AsyncPrefix
import HeaderNotes.Proofs.Source.Agreement

/-!
Control flow is never annotated. A statement word with a parenthesis behind it has the shape of a
method, but the word is reserved, and taking an `async` off the front of the line does not hide it.
So such a line is no header whatever follows the parenthesis; it is not listed, and no note is
inserted above it.
-/

namespace HeaderNotes

namespace Header

open HeaderNotes.Text

/-- Lines that open a control-flow statement: a reserved word and a parenthesis, with blanks around
the word and perhaps an `async` in front of it. -/
inductive ControlFlow : String → Prop
  | plain {indentation word gap rest : String} (hw : word ∈ reservedNames)
      (hi : allBlank indentation) (hg : allBlank gap) :
      ControlFlow (indentation ++ word ++ gap ++ "(" ++ rest)
  | async {indentation between word gap rest : String} (hw : word ∈ reservedNames)
      (hi : allBlank indentation) (hb : allBlank between) (ne : between ≠ "")
      (hg : allBlank gap) :
      ControlFlow (indentation ++ "async" ++ between ++ word ++ gap ++ "(" ++ rest)

section Reserved

variable {word : String} {rest : List Char}

/-- What the texts of the reserved words have in common. -/
theorem reservedNames_spec : ∀ word ∈ reservedNames,
    identifier? word.toList = some (word.toList, []) ∧
      word.toList.all isTargetChar ∧
      word.toList.head?.any (fun c => c != 'a') := by
  decide +kernel

theorem exists_cons_of_reserved (hw : word ∈ reservedNames) :
    ∃ c more, word.toList = c :: more ∧ c ≠ 'a' := by
  obtain ⟨_, _, hhead⟩ := reservedNames_spec word hw
  cases hword : word.toList with
  | nil => simp [hword] at hhead
  | cons c more => exact ⟨c, more, rfl, by simpa [hword] using hhead⟩

theorem isAnyNameChar_of_reserved (hw : word ∈ reservedNames) :
    ∀ c ∈ word.toList, isAnyNameChar c :=
  isAnyNameChar_of_all (reservedNames_spec word hw).2.1

theorem identifier_reserved (hw : word ∈ reservedNames) : Identifier word.toList := by
  obtain ⟨hread, _⟩ := reservedNames_spec word hw
  obtain ⟨_, c, more, hword, hc, hmore⟩ := identifier?_eq_some hread
  rw [hword]
  exact .mk hc hmore

theorem startsName_reserved (hw : word ∈ reservedNames) : StartsName (word.toList ++ rest) :=
  (identifier_reserved hw).startsName.append rest

theorem plainMethod?_reserved (hw : word ∈ reservedNames) (hr : EndsWord rest) :
    plainMethod? (word.toList ++ rest) = none := by
  have reserved : Reserved word.toList := by simpa [Reserved] using hw
  rw [plainMethod?_append (identifier_reserved hw) hr, if_pos reserved]

theorem bareMethod?_reserved (hw : word ∈ reservedNames) (hr : EndsWord rest) :
    bareMethod? (word.toList ++ rest) = none := by
  have noAsync : keyword? "async" (word.toList ++ rest) = none := by
    obtain ⟨c, more, hword, hc⟩ := exists_cons_of_reserved hw
    rw [Option.eq_none_iff_forall_ne_some]
    intro plain hk
    have := head?_of_keyword? hk (c := 'a') rfl
    simp [hword, hc] at this
  simp [bareMethod?, noAsync, plainMethod?_reserved hw hr]

theorem lookahead_reserved (hw : word ∈ reservedNames)
    (hp : (skipBlanks rest).head? = some '(') : lookahead (word.toList ++ rest) = .bareMethod :=
  lookahead_of_parenthesis (afterWord_of_mark (isAnyNameChar_of_reserved hw) hp (by decide))

variable {between : List Char}

theorem bareMethod?_async_reserved (hw : word ∈ reservedNames) (hr : EndsWord rest)
    (hb : ∀ c ∈ between, isBlank c) (ne : between ≠ []) :
    bareMethod? ("async".toList ++ (between ++ (word.toList ++ rest))) = none := by
  rw [bareMethod?_marked ⟨hb, ne⟩ (startsName_reserved hw), plainMethod?_reserved hw hr]

theorem lookahead_async_reserved (hw : word ∈ reservedNames)
    (hp : (skipBlanks rest).head? = some '(') (hb : ∀ c ∈ between, isBlank c)
    (ne : between ≠ []) :
    lookahead ("async".toList ++ (between ++ (word.toList ++ rest))) = .bareMethod := by
  have hgap : gap? (between ++ (word.toList ++ rest)) = some (word.toList ++ rest) :=
    gap?_word ⟨hb, ne⟩ (startsName_reserved hw)
  exact lookahead_of_async (keyword?_eq_some_iff.mpr rfl) hgap (startsName_reserved hw)
    (afterWord_of_mark (isAnyNameChar_of_reserved hw) hp (by decide))

end Reserved

theorem ofLine?_eq_none_of_bareMethod {line : String}
    (hk : lookahead (skipBlanks line.toList) = .bareMethod)
    (hm : bareMethod? (skipBlanks line.toList) = none) : ofLine? line = none := by
  rw [ofLine?_eq_lookahead, hk, ofLineAs?, signature?, hm]
  rfl

theorem ControlFlow.ofLine?_eq_none {line : String} (h : ControlFlow line) :
    ofLine? line = none := by
  -- In both cases blanks and a parenthesis follow the word.
  have behind : ∀ {gap rest : String}, allBlank gap →
      (skipBlanks (gap.toList ++ '(' :: rest.toList)).head? = some '(' := by
    intro gap rest hg
    rw [skipBlanks_append (isBlank_of_allBlank hg)]
    rfl
  cases h with
  | @plain indentation word gap rest hw hi hg =>
      have hline : skipBlanks (indentation ++ word ++ gap ++ "(" ++ rest).toList =
          word.toList ++ (gap.toList ++ '(' :: rest.toList) := by
        simp [skipBlanks_append (isBlank_of_allBlank hi),
          (startsName_reserved hw).skipBlanks_eq]
      apply ofLine?_eq_none_of_bareMethod <;> rw [hline]
      · exact lookahead_reserved hw (behind hg)
      · exact bareMethod?_reserved hw (.of_mark (behind hg) (by decide))
  | @async indentation between word gap rest hw hi hb ne hg =>
      have hline :
          skipBlanks (indentation ++ "async" ++ between ++ word ++ gap ++ "(" ++ rest).toList =
            "async".toList ++ (between.toList ++
              (word.toList ++ (gap.toList ++ '(' :: rest.toList))) := by
        simp only [String.toList_append, List.append_assoc,
          skipBlanks_append (isBlank_of_allBlank hi)]
        rfl
      have hb := isBlank_of_allBlank hb
      have ne : between.toList ≠ [] := by simpa using ne
      apply ofLine?_eq_none_of_bareMethod <;> rw [hline]
      · exact lookahead_async_reserved hw (behind hg) hb ne
      · exact bareMethod?_async_reserved hw (.of_mark (behind hg) (by decide)) hb ne

end Header

namespace Source

open HeaderNotes.Text

/-- The line below a note is the header that the note is about. -/
theorem header_of_note {t : Template} {written rest : List String} {front back : List Piece}
    {header : Header} {note : List String} {line : String}
    (h : piecesFrom t written rest = front ++ .note header note :: .kept line :: back) :
    Header.ofLine? line = some header := by
  induction rest generalizing written front with
  | nil => simp [piecesFrom] at h
  | cons first rest ih =>
      simp only [piecesFrom] at h
      split at h
      · rename_i hn
        cases front with
        | nil =>
            simp only [List.nil_append, List.cons.injEq, Piece.note.injEq, Piece.kept.injEq] at h
            obtain ⟨⟨rfl, rfl⟩, rfl, _⟩ := h
            exact (noteFor?_eq_some hn).1
        | cons piece front =>
            cases front with
            | nil => simp at h
            | cons piece' front => exact ih (List.cons.inj (List.cons.inj h).2).2
      · cases front with
        | nil => simp at h
        | cons piece front => exact ih (List.cons.inj h).2

/-- A line that opens a control-flow statement is no header, whatever follows the parenthesis. It is
not among the sites of a file, and annotating the file inserts nothing between it and the line
above. -/
theorem controlFlow_not_annotated {line : String} (h : Header.ControlFlow line) :
    Header.ofLine? line = none ∧
      (∀ lines i, lines[i]? = some line → ∀ site ∈ sites lines, site.line ≠ i + 1) ∧
      (∀ t lines front header note back,
        (annotate t lines).pieces ≠ front ++ .note header note :: .kept line :: back) ∧
      ∀ t front back, ∃ more,
        (annotate t (front ++ line :: back)).lines =
          (annotate t front).lines ++ line :: more := by
  have hl := h.ofLine?_eq_none
  refine ⟨hl, ?_, ?_, ?_⟩
  · intro lines i hi site hs heq
    have found := find?_sitesFrom [] lines i
    simp only [hi, Option.bind_some, hl, Option.map_none, List.length_nil, Nat.zero_add,
      List.find?_eq_none] at found
    exact found site hs (by simpa using heq)
  · intro t lines front header note back hp
    rw [header_of_note hp] at hl
    simp at hl
  · intro t front back
    have hn : ∀ written, noteFor? t written line = none := by
      intro written
      simp [noteFor?, hl]
    simp only [annotate, Annotated.lines, piecesFrom_append, piecesFrom, hn,
      List.flatMap_append, List.flatMap_cons, Piece.lines, List.singleton_append]
    exact ⟨_, rfl⟩

theorem controlFlow_not_annotated_sample :
    Header.ControlFlow "\tasync  if (x) \x7b\n" ∧
      Header.ofLine? "\tasync  if (x) \x7b\n" = none ∧
      ∀ t front back, ∃ more,
        (annotate t (front ++ "\tasync  if (x) \x7b\n" :: back)).lines =
          (annotate t front).lines ++ "\tasync  if (x) \x7b\n" :: more := by
  have flow : Header.ControlFlow ("\t" ++ "async" ++ "  " ++ "if" ++ " " ++ "(" ++ "x) \x7b\n") :=
    .async (by decide) (by decide) (by decide) (by decide) (by decide)
  obtain ⟨noHeader, _, _, apart⟩ := controlFlow_not_annotated flow
  exact ⟨flow, noHeader, apart⟩

end Source
end HeaderNotes

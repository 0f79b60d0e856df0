import HeaderNotes.Proofs.Source.Agreement

/-!
Annotating a file in parts. Lines that end in code hide everything above them from what follows:
the look-behind stops at the code and finds no comment, just as it finds none at the start of a
file. So what follows is annotated as a file of its own, provided that its first line does not ask
for the terminator of the line above.
-/

namespace HeaderNotes.Source

open HeaderNotes.Text

/-- What follows some lines is annotated alike, wherever these tell the next line the same. -/
theorem piecesFrom_congr (t : Template) {written above : List String}
    (h : Shadows written above) (rest : List String) :
    piecesFrom t written rest = piecesFrom t above rest := by
  induction rest generalizing written above with
  | nil => rfl
  | cons line rest ih =>
      have hn := noteFor?_congr h t line
      cases hf : noteFor? t above line with
      | none =>
          rw [hf] at hn
          simp only [piecesFrom, hn, hf, ih (h.cons line)]
      | some found =>
          obtain ⟨header, note⟩ := found
          rw [hf] at hn
          have hs := Shadows.cons_header (noteFor?_eq_some hf).1 (note.reverse ++ written)
            (note.reverse ++ above)
          simp only [piecesFrom, hn, hf, ih hs]

theorem commentWithin_nil (blanks : Nat) : commentWithin blanks [] = false := by
  unfold commentWithin
  rfl

theorem terminator_of_endsInLf {line : String} (h : endsInLf line) (previous : Option String) :
    terminator line previous = if endsInCrLf line then "\r\n" else "\n" := by
  simp [terminator, h]

/-- Below lines in which no comment is found, a line with a terminator of its own is annotated as
if it were the first. -/
theorem noteFor?_of_no_comment (t : Template) {written : List String}
    (hw : ∀ blanks, commentWithin blanks written = false) {line : String} (hl : endsInLf line) :
    noteFor? t written line = noteFor? t [] line := by
  have hd : documentedBelow written = documentedBelow [] := hw maxBlankLines
  simp only [noteFor?, hd, terminator_of_endsInLf hl]

theorem piecesFrom_of_no_comment (t : Template) {written : List String}
    (hw : ∀ blanks, commentWithin blanks written = false) {rest : List String}
    (hr : ∀ line ∈ rest.head?, endsInLf line) :
    piecesFrom t written rest = piecesFrom t [] rest := by
  cases rest with
  | nil => rfl
  | cons line rest =>
      have hn := noteFor?_of_no_comment t hw (hr line rfl)
      cases hf : noteFor? t [] line with
      | none =>
          have hs : Shadows (line :: written) [line] :=
            .cons_of_comment (fun blanks => (hw blanks).trans (commentWithin_nil blanks).symm) line
          rw [hf] at hn
          simp only [piecesFrom, hn, hf, piecesFrom_congr t hs]
      | some found =>
          obtain ⟨header, note⟩ := found
          have hs := Shadows.cons_header (noteFor?_eq_some hf).1 (note.reverse ++ written)
            (note.reverse ++ [])
          rw [hf] at hn
          simp only [piecesFrom, hn, hf, piecesFrom_congr t hs]

/-- The last line of a file stays the last one, below the note that it may get. -/
theorem exists_lines_concat (t : Template) (front : List String) (last : String) :
    ∃ above, (annotate t (front ++ [last])).lines = above ++ [last] := by
  simp only [annotate, Annotated.lines, piecesFrom_append, List.flatMap_append]
  obtain ⟨written, -, hp⟩ := piecesFrom_cons
    (.refl (((piecesFrom t [] front).flatMap Piece.lines).reverse ++ [])) t last []
  rw [hp, List.flatMap_append, ← List.append_assoc]
  exact ⟨_, rfl⟩

/-- Below a file that ends in code no comment is found, with its notes as without them. -/
theorem commentWithin_annotate (t : Template) {front : List String}
    (hf : ∀ last ∈ front.getLast?, allBlank last = false ∧ startsComment last = false)
    (blanks : Nat) : commentWithin blanks (annotate t front).lines.reverse = false := by
  rcases List.eq_nil_or_concat front with rfl | ⟨front, last, rfl⟩
  · exact commentWithin_nil blanks
  · rw [List.concat_eq_append] at hf ⊢
    obtain ⟨above, hlines⟩ := exists_lines_concat t front last
    obtain ⟨hblank, hcomment⟩ := hf last (by simp)
    rw [hlines, List.reverse_append, List.reverse_singleton, List.singleton_append,
      commentWithin_of_not_allBlank hblank, hcomment]

theorem pieces_annotate_append (t : Template) {front back : List String}
    (hf : ∀ last ∈ front.getLast?, allBlank last = false ∧ startsComment last = false)
    (hb : ∀ first ∈ back.head?, endsInLf first) :
    (annotate t (front ++ back)).pieces =
      (annotate t front).pieces ++ (annotate t back).pieces := by
  have hw := commentWithin_annotate t hf
  simp only [annotate, Annotated.lines] at hw ⊢
  rw [piecesFrom_append, List.append_nil, piecesFrom_of_no_comment t hw hb]

/-- A file that is cut below a line of code is annotated part by part: the lines are those of both
parts, one behind the other, and the notes of both are counted, in all and of each kind. The second
part has to start with a line that has a terminator of its own. -/
theorem annotate_append (t : Template) {front back : List String}
    (hf : ∀ last ∈ front.getLast?, allBlank last = false ∧ startsComment last = false)
    (hb : ∀ first ∈ back.head?, endsInLf first) :
    (annotate t (front ++ back)).lines = (annotate t front).lines ++ (annotate t back).lines ∧
      (annotate t (front ++ back)).added = (annotate t front).added + (annotate t back).added ∧
      (annotate t (front ++ back)).byKind =
        (annotate t front).byKind.merge (annotate t back).byKind ∧
      ∀ k, (annotate t (front ++ back)).byKind.count k =
        (annotate t front).byKind.count k + (annotate t back).byKind.count k := by
  have hp := pieces_annotate_append t hf hb
  have kinds : (annotate t (front ++ back)).kinds =
      (annotate t front).kinds ++ (annotate t back).kinds := by
    simp only [Annotated.kinds, hp, List.filterMap_append]
  have byKind : (annotate t (front ++ back)).byKind =
      (annotate t front).byKind.merge (annotate t back).byKind := by
    simp only [Annotated.byKind, kinds, Tally.merge_ofKinds]
  refine ⟨?_, ?_, byKind, fun k => ?_⟩
  · simp only [Annotated.lines, hp, List.flatMap_append]
  · simp only [Annotated.added, kinds, List.length_append]
  · rw [byKind, Tally.count_merge]

theorem annotate_append_sample :
    (annotate {} ["f(a) \x7b"]).added = 1 ∧
      (annotate {} (["f(a) \x7b"] ++ ["\r\n", "g() \x7b"])).lines =
        (annotate {} ["f(a) \x7b"]).lines ++ (annotate {} ["\r\n", "g() \x7b"]).lines ∧
      (annotate {} (["f(a) \x7b"] ++ ["\r\n", "g() \x7b"])).byKind.count .bareMethod = 2 := by
  obtain ⟨lines, _, _, count⟩ := @annotate_append {} ["f(a) \x7b"] ["\r\n", "g() \x7b"]
    (by decide) (by decide)
  refine ⟨by decide +kernel, lines, ?_⟩
  rw [count]
  decide +kernel

end HeaderNotes.Source

import HeaderNotes.Proofs.Source.Stability

/-!
Annotating a partly annotated file. Whichever of its notes a file has already, annotating it adds
the others and ends in the same lines; so it restores what is deleted from an annotated file. A note
that is there documents its own header and hides nothing from the headers below it, since the
look-behind stops at the header under the note.
-/

namespace HeaderNotes.Source

open HeaderNotes.Text

/-- The file with the missing notes of the chosen lines only, given by their numbers. -/
def partlyAnnotated (t : Template) (lines : List String) (chosen : Nat → Bool) : List String :=
  lines.zipIdx.flatMap fun entry =>
    (if chosen (entry.2 + 1) then missingNote t lines entry.1 entry.2 else []) ++ [entry.1]

@[simp] theorem filterMap_kept?_kept (line : String) (pieces : List Piece) :
    (Piece.kept line :: pieces).filterMap Piece.kept? = line :: pieces.filterMap Piece.kept? := rfl

@[simp] theorem filterMap_kept?_note (header : Header) (note : List String)
    (pieces : List Piece) :
    (Piece.note header note :: pieces).filterMap Piece.kept? = pieces.filterMap Piece.kept? := rfl

@[simp] theorem filterMap_kind?_kept (line : String) (pieces : List Piece) :
    (Piece.kept line :: pieces).filterMap Piece.kind? = pieces.filterMap Piece.kind? := rfl

@[simp] theorem filterMap_kind?_note (header : Header) (note : List String)
    (pieces : List Piece) :
    (Piece.note header note :: pieces).filterMap Piece.kind? =
      header.kind :: pieces.filterMap Piece.kind? := rfl

@[simp] theorem filterMap_kind?_map_kept (lines : List String) :
    (lines.map Piece.kept).filterMap Piece.kind? = [] := by
  induction lines with
  | nil => rfl
  | cons line lines ih => simpa using ih

@[simp] theorem flatMap_lines_map_kept (lines : List String) :
    (lines.map Piece.kept).flatMap Piece.lines = lines := by
  induction lines with
  | nil => rfl
  | cons line lines ih => simpa [Piece.lines] using ih

theorem piecesFrom_append_of_no_header {front : List String}
    (h : ∀ line ∈ front, Header.ofLine? line = none) (t : Template) (written rest : List String) :
    piecesFrom t written (front ++ rest) =
      front.map .kept ++ piecesFrom t (front.reverse ++ written) rest := by
  induction front generalizing written with
  | nil => rfl
  | cons line front ih =>
      have hn : noteFor? t written line = none := by
        simp [noteFor?, h line List.mem_cons_self]
      have hrest := ih (fun l hl => h l (List.mem_cons_of_mem _ hl)) (line :: written)
      simp [piecesFrom, hn, hrest]

/-- A line that has its note above it is kept below the note. -/
theorem piecesFrom_note_append {t : Template} {written : List String} {line : String}
    {header : Header} {note : List String} (hn : noteFor? t written line = some (header, note))
    (rest : List String) :
    piecesFrom t written (note ++ line :: rest) =
      note.map .kept ++ .kept line :: piecesFrom t (line :: (note.reverse ++ written)) rest := by
  have documented : noteFor? t (note.reverse ++ written) line = none := by
    simp [noteFor?, (noteFor?_eq_some hn).1, documentedBelow_noteFor? hn]
  rw [piecesFrom_append_of_no_header fun _ hl => ofLine?_of_mem_noteFor? hn hl]
  simp [piecesFrom, documented]

/-- If no line of the file is deleted, the first of them is still there. -/
theorem exists_of_sublist_kept {remaining pieces : List Piece} {line : String}
    (h : remaining.Sublist (.kept line :: pieces))
    (hk : remaining.filterMap Piece.kept? = line :: pieces.filterMap Piece.kept?) :
    ∃ tail, remaining = .kept line :: tail ∧ tail.Sublist pieces ∧
      tail.filterMap Piece.kept? = pieces.filterMap Piece.kept? := by
  cases h with
  | cons _ h =>
      have hlen := (h.filterMap Piece.kept?).length_le
      rw [hk, List.length_cons] at hlen
      omega
  | @cons_cons tail _ _ h =>
      refine ⟨tail, rfl, h, ?_⟩
      simpa using hk

/-- The pass restores the notes that are deleted from what it has written, and no others. -/
theorem piecesFrom_remaining (t : Template) {written above rest : List String}
    (hs : Shadows written above) {remaining : List Piece}
    (hr : remaining.Sublist (piecesFrom t above rest))
    (hk : remaining.filterMap Piece.kept? = rest) :
    (piecesFrom t written (remaining.flatMap Piece.lines)).flatMap Piece.lines =
        (piecesFrom t above rest).flatMap Piece.lines ∧
      ((piecesFrom t written (remaining.flatMap Piece.lines)).filterMap Piece.kind?).length +
          (remaining.filterMap Piece.kind?).length =
        ((piecesFrom t above rest).filterMap Piece.kind?).length := by
  induction rest generalizing written above remaining with
  | nil =>
      obtain rfl : remaining = [] := by simpa [piecesFrom] using hr
      exact ⟨rfl, rfl⟩
  | cons line rest ih =>
      have hcongr := noteFor?_congr hs t line
      cases hn : noteFor? t above line with
      | none =>
          rw [hn] at hcongr
          simp only [piecesFrom, hn] at hr ⊢
          obtain ⟨tail, rfl, htail, hkept⟩ := exists_of_sublist_kept hr
            (by rw [hk, filterMap_kept?_piecesFrom])
          rw [filterMap_kept?_piecesFrom] at hkept
          obtain ⟨hlines, hcount⟩ := ih (hs.cons line) htail hkept
          simp [piecesFrom, hcongr, Piece.lines, hlines, hcount]
      | some found =>
          obtain ⟨header, note⟩ := found
          rw [hn] at hcongr
          simp only [piecesFrom, hn] at hr ⊢
          have hs' := Shadows.cons_header (noteFor?_eq_some hn).1 (note.reverse ++ written)
            (note.reverse ++ above)
          cases hr with
          | cons _ hr =>
              -- The note was deleted, and the line gets it again.
              obtain ⟨tail, rfl, htail, hkept⟩ := exists_of_sublist_kept hr
                (by rw [hk, filterMap_kept?_piecesFrom])
              rw [filterMap_kept?_piecesFrom] at hkept
              obtain ⟨hlines, hcount⟩ := ih hs' htail hkept
              simp only [List.flatMap_cons, Piece.lines, List.singleton_append, piecesFrom, hcongr,
                hlines, filterMap_kind?_note, filterMap_kind?_kept, List.length_cons, true_and]
              omega
          | @cons_cons remaining _ _ hr =>
              -- The note is still there, and documents the line.
              obtain ⟨tail, rfl, htail, hkept⟩ := exists_of_sublist_kept hr
                (by rw [filterMap_kept?_note] at hk; rw [hk, filterMap_kept?_piecesFrom])
              rw [filterMap_kept?_piecesFrom] at hkept
              obtain ⟨hlines, hcount⟩ := ih hs' htail hkept
              simp only [List.flatMap_cons, Piece.lines, List.singleton_append,
                piecesFrom_note_append hcongr, List.flatMap_append, List.filterMap_append,
                flatMap_lines_map_kept, filterMap_kind?_map_kept, List.nil_append,
                hlines, filterMap_kind?_note, filterMap_kind?_kept, List.length_cons, true_and]
              omega

/-- The undocumented sites are those of the lines that get a note. -/
theorem undocumented_sitesFrom_cons (t : Template) (above : List String) (line : String)
    (rest : List String) :
    ((sitesFrom above (line :: rest)).filter fun s => !s.documented) =
      ((noteFor? t above line).map fun n => ⟨above.length + 1, n.1, false⟩).toList ++
        (sitesFrom (line :: above) rest).filter fun s => !s.documented := by
  cases hl : Header.ofLine? line with
  | none => simp [sitesFrom, noteFor?, hl]
  | some header => cases hd : documentedBelow above <;> simp [sitesFrom, noteFor?, hl, hd]

/-- A partly annotated file is what is left of the annotated one, with as many notes as there are
undocumented sites on the chosen lines. -/
theorem exists_remaining (t : Template) (chosen : Nat → Bool)
    {lines written above rest : List String} (hs : Shadows written above)
    (hlines : lines = above.reverse ++ rest) :
    ∃ remaining : List Piece, remaining.Sublist (piecesFrom t written rest) ∧
      remaining.filterMap Piece.kept? = rest ∧
      (remaining.flatMap Piece.lines =
        (rest.zipIdx above.length).flatMap fun entry =>
          (if chosen (entry.2 + 1) then missingNote t lines entry.1 entry.2 else []) ++
            [entry.1]) ∧
      (remaining.filterMap Piece.kind?).length =
        (((sitesFrom above rest).filter fun s => !s.documented).filter fun s =>
          chosen s.line).length := by
  induction rest generalizing written above with
  | nil => exact ⟨[], .slnil, rfl, rfl, rfl⟩
  | cons line rest ih =>
      obtain ⟨written', hs', hp⟩ := piecesFrom_cons hs t line rest
      obtain ⟨tail, htail, hkept, htext, hcount⟩ := ih hs' (by simp [hlines])
      have hmissing := missingNote_eq t above line rest
      rw [← hlines] at hmissing
      rw [hp, undocumented_sitesFrom_cons t, List.zipIdx_cons, List.flatMap_cons, hmissing]
      rw [List.length_cons] at htext
      cases hn : noteFor? t above line with
      | none =>
          exact ⟨.kept line :: tail, htail.cons_cons _, by simp [hkept],
            by simp [Piece.lines, htext], by simp [hcount]⟩
      | some found =>
          obtain ⟨header, note⟩ := found
          cases hc : chosen (above.length + 1) with
          | true =>
              exact ⟨.note header note :: .kept line :: tail, (htail.cons_cons _).cons_cons _,
                by simp [hkept], by simp [Piece.lines, htext], by simp [hc, hcount]⟩
          | false =>
              exact ⟨.kept line :: tail, (htail.cons_cons _).cons _, by simp [hkept],
                by simp [Piece.lines, htext], by simp [hc, hcount]⟩

/-- Annotating a file that has some of its notes already, inserted by hand or left over when the
others were deleted, adds the missing ones and gives the lines of the annotated file. -/
theorem annotate_resumes (t : Template) (lines : List String) :
    (∀ chosen : Nat → Bool,
      (annotate t (partlyAnnotated t lines chosen)).lines = (annotate t lines).lines ∧
      (annotate t (partlyAnnotated t lines chosen)).added +
          ((undocumented lines).filter fun s => chosen s.line).length =
        (annotate t lines).added) ∧
    ∀ remaining : Annotated, remaining.pieces.Sublist (annotate t lines).pieces →
      remaining.keptLines = lines →
      (annotate t remaining.lines).lines = (annotate t lines).lines ∧
      (annotate t remaining.lines).added + remaining.added = (annotate t lines).added := by
  have restores := fun (remaining : List Piece) => @piecesFrom_remaining t [] [] lines (.refl [])
    remaining
  refine ⟨fun chosen => ?_, fun remaining hr hk => restores remaining.pieces hr hk⟩
  obtain ⟨remaining, hr, hk, htext, hcount⟩ :=
    exists_remaining t chosen (.refl []) (rfl : lines = _)
  have hpartly : partlyAnnotated t lines chosen = remaining.flatMap Piece.lines := htext.symm
  rw [hpartly, undocumented, sites, ← hcount]
  exact restores remaining hr hk

theorem annotate_resumes_sample :
    (annotate {} ["f(a) \x7b\n", "\n", "g() \x7b"]).added = 2 ∧
      (annotate {} ((annotate {} ["f(a) \x7b\n", "\n", "g() \x7b"]).lines.drop 5)).lines =
        (annotate {} ["f(a) \x7b\n", "\n", "g() \x7b"]).lines := by
  obtain ⟨_, deleted⟩ := annotate_resumes {} ["f(a) \x7b\n", "\n", "g() \x7b"]
  have first : (Annotated.mk
      ((annotate {} ["f(a) \x7b\n", "\n", "g() \x7b"]).pieces.drop 1)).lines =
      (annotate {} ["f(a) \x7b\n", "\n", "g() \x7b"]).lines.drop 5 := by
    decide +kernel
  obtain ⟨restored, _⟩ := deleted (Annotated.mk _) (List.drop_sublist 1 _) (by decide +kernel)
  rw [first] at restored
  exact ⟨by decide +kernel, restored⟩

end HeaderNotes.Source

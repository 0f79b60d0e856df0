import HeaderNotes.Proofs.Source.Comments
import HeaderNotes.Proofs.Tally
import HeaderNotes.Source.Site

/-!
Annotating agrees with listing. The pass that inserts notes judges each line by what it has already
written, notes included, while the sites of a file are judged by the file alone. The two never
differ: the look-behind cannot pass the header that an inserted note stands above. So the annotated
file is the file itself with the note of each undocumented site above its line.
-/

namespace HeaderNotes.Source

open HeaderNotes.Text

/-- The lines written so far and the lines above in the file, both nearest first, tell the next
line the same. -/
structure Shadows (written above : List String) : Prop where
  head : written.head? = above.head?
  comment : ∀ blanks, commentWithin blanks written = commentWithin blanks above

theorem Shadows.refl (above : List String) : Shadows above above :=
  ⟨rfl, fun _ => rfl⟩

/-- Below one more line it only matters which comments are found. -/
theorem Shadows.cons_of_comment {written above : List String}
    (h : ∀ blanks, commentWithin blanks written = commentWithin blanks above) (line : String) :
    Shadows (line :: written) (line :: above) := by
  refine ⟨rfl, fun blanks => ?_⟩
  unfold commentWithin
  cases blanks with
  | zero => rfl
  | succ blanks => simp only [h]

theorem Shadows.cons {written above : List String} (h : Shadows written above) (line : String) :
    Shadows (line :: written) (line :: above) :=
  .cons_of_comment h.comment line

/-- Below a header it does not matter what was written above it. -/
theorem Shadows.cons_header {line : String} {header : Header}
    (hl : Header.ofLine? line = some header) (written above : List String) :
    Shadows (line :: written) (line :: above) :=
  ⟨rfl, fun blanks => by rw [commentWithin_header hl, commentWithin_header hl]⟩

theorem noteFor?_congr {written above : List String} (h : Shadows written above) (t : Template)
    (line : String) : noteFor? t written line = noteFor? t above line := by
  have hd : documentedBelow written = documentedBelow above := h.comment _
  unfold noteFor?
  rw [hd, h.head]

theorem noteFor?_eq_some {t : Template} {above : List String} {line : String} {header : Header}
    {note : List String} (h : noteFor? t above line = some (header, note)) :
    Header.ofLine? line = some header ∧ documentedBelow above = false ∧
      note = (Note.ofHeader header).lines t (terminator line above.head?) := by
  unfold noteFor? at h
  split at h
  · rename_i header' hl
    split at h
    · simp at h
    · rename_i hd
      simp only [Option.some.injEq, Prod.mk.injEq] at h
      obtain ⟨rfl, rfl⟩ := h
      exact ⟨hl, by simpa using hd, rfl⟩
  · simp at h

/-- One line is annotated alike below the lines written and below the lines of the file, and what
is written then tells the next line the same again. -/
theorem piecesFrom_cons {written above : List String} (h : Shadows written above) (t : Template)
    (line : String) (rest : List String) :
    ∃ written', Shadows written' (line :: above) ∧
      piecesFrom t written (line :: rest) =
        ((noteFor? t above line).map fun n => Piece.note n.1 n.2).toList ++
          .kept line :: piecesFrom t written' rest := by
  cases hn : noteFor? t above line with
  | none =>
      refine ⟨line :: written, h.cons line, ?_⟩
      simp [piecesFrom, noteFor?_congr h, hn]
  | some found =>
      obtain ⟨header, note⟩ := found
      obtain ⟨hl, _, _⟩ := noteFor?_eq_some hn
      refine ⟨line :: (note.reverse ++ written), .cons_header hl _ _, ?_⟩
      simp [piecesFrom, noteFor?_congr h, hn]

/-- Annotating goes on below what has been written. -/
theorem piecesFrom_append (t : Template) (written front back : List String) :
    piecesFrom t written (front ++ back) =
      piecesFrom t written front ++
        piecesFrom t (((piecesFrom t written front).flatMap Piece.lines).reverse ++ written)
          back := by
  induction front generalizing written with
  | nil => simp [piecesFrom]
  | cons line front ih =>
      simp only [List.cons_append, piecesFrom]
      split <;> simp [ih, Piece.lines]

theorem line_gt_of_mem_sitesFrom {above rest : List String} {s : Site}
    (h : s ∈ sitesFrom above rest) : above.length < s.line := by
  induction rest generalizing above with
  | nil => simp [sitesFrom] at h
  | cons line rest ih =>
      unfold sitesFrom at h
      split at h
      · rcases List.mem_cons.mp h with rfl | h
        · exact Nat.lt_succ_self _
        · exact Nat.lt_of_succ_lt (ih h)
      · exact Nat.lt_of_succ_lt (ih h)

/-- The site on a given line of the file: there is one if the line is a header, and whether it is
documented is judged by the lines above it in the file. -/
theorem find?_sitesFrom (above rest : List String) (i : Nat) :
    (sitesFrom above rest).find? (fun s => s.line == above.length + i + 1) =
      rest[i]?.bind fun line => (Header.ofLine? line).map fun header =>
        ⟨above.length + i + 1, header, documentedBelow ((rest.take i).reverse ++ above)⟩ := by
  induction rest generalizing above i with
  | nil => simp [sitesFrom]
  | cons line rest ih =>
      cases i with
      | zero =>
          have later : (sitesFrom (line :: above) rest).find?
              (fun s => s.line == above.length + 1) = none := by
            rw [List.find?_eq_none]
            intro s hs
            have := line_gt_of_mem_sitesFrom hs
            simp only [List.length_cons] at this
            simp only [beq_iff_eq]
            omega
          cases hl : Header.ofLine? line <;> simp [sitesFrom, hl, later]
      | succ i =>
          have step := ih (line :: above) i
          simp only [List.length_cons] at step
          rw [show above.length + 1 + i + 1 = above.length + (i + 1) + 1 by omega] at step
          cases hl : Header.ofLine? line <;> simp [sitesFrom, hl, step]

/-- The note that a line of the file is missing: it has one if the site on the line is
undocumented. Its terminator is chosen by the line and by the line before it in the file. -/
def missingNote (t : Template) (lines : List String) (line : String) (i : Nat) : List String :=
  match (sites lines).find? fun s => s.line == i + 1 with
  | some s =>
    if s.documented then
      []
    else
      (Note.ofHeader s.header).lines t (terminator line (lines.take i).getLast?)
  | none => []

/-- The sites of a file that no comment documents. -/
def undocumented (lines : List String) : List Site :=
  (sites lines).filter fun s => !s.documented

theorem missingNote_eq (t : Template) (above : List String) (line : String)
    (rest : List String) :
    missingNote t (above.reverse ++ line :: rest) line above.length =
      ((noteFor? t above line).map Prod.snd).getD [] := by
  have hsite := find?_sitesFrom [] (above.reverse ++ line :: rest) above.length
  have hline : (above.reverse ++ line :: rest)[above.length]? = some line := by
    simp
  have htake : (above.reverse ++ line :: rest).take above.length = above.reverse := by
    simp
  simp only [List.length_nil, Nat.zero_add, hline, htake, Option.bind_some, List.append_nil,
    List.reverse_reverse] at hsite
  unfold missingNote sites
  rw [hsite, htake, List.getLast?_reverse]
  cases hl : Header.ofLine? line with
  | none => simp [noteFor?, hl]
  | some header =>
      simp only [Option.map_some, noteFor?, hl]
      cases documentedBelow above <;> rfl

theorem lines_piecesFrom (t : Template) {lines written above rest : List String}
    (hs : Shadows written above) (hlines : lines = above.reverse ++ rest) :
    (piecesFrom t written rest).flatMap Piece.lines =
      (rest.zipIdx above.length).flatMap fun entry =>
        missingNote t lines entry.1 entry.2 ++ [entry.1] := by
  -- The sites are those of the whole file at every step; only the cut into `above` and `rest` moves.
  induction rest generalizing written above with
  | nil => rfl
  | cons line rest ih =>
      obtain ⟨written', hs', hp⟩ := piecesFrom_cons hs t line rest
      have htail := ih hs' (by simp [hlines])
      rw [hp, List.flatMap_append, List.flatMap_cons, htail, hlines, List.zipIdx_cons,
        List.flatMap_cons, missingNote_eq, ← hlines]
      cases noteFor? t above line <;> simp [Piece.lines]

theorem kinds_piecesFrom (t : Template) {written above : List String}
    (hs : Shadows written above) (rest : List String) :
    (piecesFrom t written rest).filterMap Piece.kind? =
      ((sitesFrom above rest).filter fun s => !s.documented).map fun s => s.header.kind := by
  induction rest generalizing written above with
  | nil => rfl
  | cons line rest ih =>
      obtain ⟨written', hs', hp⟩ := piecesFrom_cons hs t line rest
      rw [hp, List.filterMap_append, List.filterMap_cons_none rfl, ih hs']
      cases hl : Header.ofLine? line with
      | none => simp [sitesFrom, noteFor?, hl]
      | some header =>
          cases hd : documentedBelow above <;> simp [sitesFrom, noteFor?, hl, hd, Piece.kind?]

theorem kinds_annotate (t : Template) (lines : List String) :
    (annotate t lines).kinds = (undocumented lines).map fun s => s.header.kind :=
  kinds_piecesFrom t (.refl []) lines

theorem added_annotate (t : Template) (lines : List String) :
    (annotate t lines).added = (undocumented lines).length := by
  rw [Annotated.added, kinds_annotate, List.length_map]

theorem keptLines_sublist (a : Annotated) : a.keptLines.Sublist a.lines := by
  obtain ⟨pieces⟩ := a
  induction pieces with
  | nil => exact .slnil
  | cons piece pieces ih =>
      simp only [Annotated.keptLines, Annotated.lines] at ih ⊢
      cases piece with
      | kept line => simpa [Piece.kept?, Piece.lines] using ih
      | note header note =>
          rw [List.filterMap_cons_none rfl, List.flatMap_cons]
          exact ih.trans (List.sublist_append_right _ _)

theorem length_lines_piecesFrom (t : Template) (written rest : List String) :
    ((piecesFrom t written rest).flatMap Piece.lines).length =
      rest.length + 5 * ((piecesFrom t written rest).filterMap Piece.kind?).length := by
  induction rest generalizing written with
  | nil => rfl
  | cons line rest ih =>
      unfold piecesFrom
      split
      · rename_i header note hn
        obtain ⟨_, _, rfl⟩ := noteFor?_eq_some hn
        simp only [List.flatMap_cons, Piece.lines, List.length_append, Note.length_lines, ih,
          List.length_cons, List.length_nil, List.filterMap_cons, Piece.kind?]
        omega
      · simp only [List.flatMap_cons, Piece.lines, List.length_append, ih, List.length_cons,
          List.length_nil, List.filterMap_cons, Piece.kind?]
        omega

theorem count_kinds_annotate (t : Template) (lines : List String) (k : Kind) :
    (annotate t lines).kinds.count k =
      ((undocumented lines).filter fun s => s.header.kind == k).length := by
  rw [kinds_annotate, List.count, List.countP_map, List.countP_eq_length_filter]
  rfl

/-- The annotated file is the file with the missing notes above its lines, and nothing else. As
many notes are counted as there are undocumented sites, in all and of each kind. -/
theorem annotate_eq_missingNotes (t : Template) (lines : List String) :
    (annotate t lines).lines =
        (lines.zipIdx.flatMap fun entry => missingNote t lines entry.1 entry.2 ++ [entry.1]) ∧
      (annotate t lines).added = (undocumented lines).length ∧
      (∀ k, (annotate t lines).byKind.count? k =
        if ((undocumented lines).filter fun s => s.header.kind == k).length = 0 then none
        else some ((undocumented lines).filter fun s => s.header.kind == k).length) ∧
      (annotate t lines).byKind.total = (annotate t lines).added ∧
      lines.Sublist (annotate t lines).lines ∧
      (annotate t lines).lines.length = lines.length + 5 * (annotate t lines).added := by
  refine ⟨lines_piecesFrom t (.refl []) rfl, added_annotate t lines, fun k => ?_,
    Tally.total_ofKinds _, ?_, length_lines_piecesFrom t [] lines⟩
  · rw [Annotated.byKind, Tally.count?_ofKinds, count_kinds_annotate]
  · simpa only [keptLines_annotate] using keptLines_sublist (annotate t lines)

end HeaderNotes.Source

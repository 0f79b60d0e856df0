import HeaderNotes.Proofs.Source.Agreement

/-!
Annotated files are stable. In what the pass writes every header is documented: by what was above it
already, or by its note, whose lines are themselves no headers. So the sites of an annotated file
are those of the file itself, moved down by the notes. And the lines that the pass writes are the
lines that are read back from their text, unless the placeholder breaks a line in two.
-/

namespace HeaderNotes.Source

open HeaderNotes.Text

/-- Lines that are no headers only move the rest further down. -/
theorem sitesFrom_append_of_no_header {front : List String}
    (h : ∀ line ∈ front, Header.ofLine? line = none) (above rest : List String) :
    sitesFrom above (front ++ rest) = sitesFrom (front.reverse ++ above) rest := by
  induction front generalizing above with
  | nil => rfl
  | cons line front ih =>
      have hline : Header.ofLine? line = none := h line List.mem_cons_self
      have hrest := ih (fun l hl => h l (List.mem_cons_of_mem _ hl)) (line :: above)
      simp [sitesFrom, hline, hrest]

section Found

variable {t : Template} {above : List String} {line : String} {header : Header}
  {note : List String}

theorem startsComment_of_mem_noteFor? (h : noteFor? t above line = some (header, note))
    {l : String} (hl : l ∈ note) : startsComment l := by
  obtain ⟨hline, _, rfl⟩ := noteFor?_eq_some h
  exact startsComment_note (fun c hc => Header.ofLine?_isBlank_indentation hline hc) t _ hl

theorem ended_of_mem_noteFor? (h : noteFor? t above line = some (header, note))
    (hfeed : '\n' ∉ line.toList.dropLast) (ht : '\n' ∉ t.placeholder.toList)
    {l : String} (hl : l ∈ note) : Ended l := by
  obtain ⟨hline, _, rfl⟩ := noteFor?_eq_some h
  have hparts := fun c => Header.ofLine?_mem_dropLast (c := c) hline
  exact ended_note (fun hm => hfeed (hparts _ (.inl hm)))
    (fun hm => hfeed (hparts _ (.inr (.inl hm)))) (fun hm => hfeed (hparts _ (.inr (.inr hm))))
    ht (ended_terminator _ _) hl

theorem length_noteFor? (h : noteFor? t above line = some (header, note)) :
    note.length = 5 := by
  obtain ⟨_, _, rfl⟩ := noteFor?_eq_some h
  exact Note.length_lines _ _ _

theorem ofLine?_of_mem_noteFor? (h : noteFor? t above line = some (header, note))
    {l : String} (hl : l ∈ note) : Header.ofLine? l = none :=
  ofLine?_eq_none_of_startsComment (startsComment_of_mem_noteFor? h hl)

theorem documentedBelow_noteFor? (h : noteFor? t above line = some (header, note)) :
    documentedBelow (note.reverse ++ above) = true :=
  documentedBelow_comments (List.ne_nil_of_length_eq_add_one (length_noteFor? h))
    (fun _ hl => startsComment_of_mem_noteFor? h hl) above

end Found

/-- None of the sites that follow some lines stands on one of these lines. -/
theorem countP_sitesFrom (above rest : List String) :
    ((sitesFrom above rest).filter fun u => !u.documented).countP
      (fun u => u.line ≤ above.length) = 0 := by
  rw [List.countP_eq_zero]
  intro u hu
  have := line_gt_of_mem_sitesFrom (List.mem_filter.mp hu).1
  simpa using this

/-- In what the pass writes every header is documented, and stands further down by the lines that
were written in excess, which grow by five with each note. -/
theorem sitesFrom_piecesFrom (t : Template) {written above : List String}
    (hs : Shadows written above) (excess : Nat) (hlen : written.length = above.length + excess)
    (rest : List String) :
    sitesFrom written ((piecesFrom t written rest).flatMap Piece.lines) =
      (sitesFrom above rest).map fun s =>
        { line := s.line + excess + 5 * ((sitesFrom above rest).filter fun u =>
            !u.documented).countP fun u => u.line ≤ s.line
          header := s.header
          documented := true } := by
  induction rest generalizing written above excess with
  | nil => rfl
  | cons line rest ih =>
      have later := countP_sitesFrom (line :: above) rest
      rw [List.length_cons] at later
      cases hl : Header.ofLine? line with
      | none =>
          have hn : noteFor? t written line = none := by simp [noteFor?, hl]
          simp only [piecesFrom, hn, List.flatMap_cons, Piece.lines, List.singleton_append,
            sitesFrom, hl]
          exact ih (hs.cons line) excess (by simp [hlen]; omega)
      | some header =>
          have hd : documentedBelow written = documentedBelow above := hs.comment _
          cases ha : documentedBelow above with
          | true =>
              have hn : noteFor? t written line = none := by simp [noteFor?, hl, hd, ha]
              have tail := ih (hs.cons line) excess (by simp [hlen]; omega)
              simp only [piecesFrom, hn, List.flatMap_cons, Piece.lines, List.singleton_append,
                sitesFrom, hl, hd, ha, tail, List.map_cons, List.filter_cons, Bool.not_true,
                Bool.false_eq_true, if_false, later]
              congr 2
              omega
          | false =>
              obtain ⟨note, hn⟩ : ∃ note, noteFor? t written line = some (header, note) := by
                simp [noteFor?, hl, hd, ha]
              have hfive := length_noteFor? hn
              have tail := ih (.cons_header hl (note.reverse ++ written) above) (excess + 5)
                (by simp [hlen, hfive]; omega)
              -- The lines of the note are no sites, and the last of them documents the line.
              simp only [piecesFrom, hn, List.flatMap_cons, Piece.lines, List.singleton_append,
                sitesFrom_append_of_no_header fun _ hm => ofLine?_of_mem_noteFor? hn hm,
                sitesFrom, hl, documentedBelow_noteFor? hn, ha, tail, List.map_cons,
                List.filter_cons, Bool.not_false, if_true, List.countP_cons, later]
              refine congrArg₂ List.cons ?_ (List.map_congr_left fun s hm => ?_)
              · simp [hlen, hfive]
                omega
              · have := line_gt_of_mem_sitesFrom hm
                simp only [List.length_cons] at this
                simp only [Site.mk.injEq, and_self, and_true]
                rw [if_pos (by simp; omega)]
                omega

theorem sites_annotate (t : Template) (lines : List String) :
    sites (annotate t lines).lines = (sites lines).map fun s =>
      { line := s.line + 5 * (undocumented lines).countP fun u => u.line ≤ s.line
        header := s.header
        documented := true } :=
  sitesFrom_piecesFrom t (.refl []) 0 rfl lines

/-- No header is left undocumented. -/
theorem undocumented_annotate (t : Template) (lines : List String) :
    undocumented (annotate t lines).lines = [] := by
  simp [undocumented, sites_annotate, List.filter_map]

/-- Annotating again adds nothing, however the notes are worded. -/
theorem added_annotate_annotate (t u : Template) (lines : List String) :
    (annotate u (annotate t lines).lines).added = 0 := by
  rw [added_annotate, undocumented_annotate, List.length_nil]

theorem lines_eq_keptLines {a : Annotated} (h : a.kinds = []) : a.lines = a.keptLines := by
  obtain ⟨pieces⟩ := a
  induction pieces with
  | nil => rfl
  | cons piece pieces ih =>
      simp only [Annotated.kinds, Annotated.lines, Annotated.keptLines] at h ih ⊢
      cases piece with
      | kept line =>
          rw [List.filterMap_cons_none rfl] at h
          simp [Piece.lines, Piece.kept?, ih h]
      | note header note => simp [Piece.kind?] at h

/-- In an annotated file the same headers are found as before. All of them are documented, and each
has moved down by the five lines of every note at or above it. So annotating the file again, in
whatever words, adds nothing and leaves its lines as they are. -/
theorem annotate_settles (t : Template) (lines : List String) :
    (sites (annotate t lines).lines = (sites lines).map fun s =>
      { line := s.line + 5 * (undocumented lines).countP fun u => u.line ≤ s.line
        header := s.header
        documented := true }) ∧
    ∀ u : Template,
      (annotate u (annotate t lines).lines).added = 0 ∧
      (annotate u (annotate t lines).lines).byKind = .empty ∧
      (annotate u (annotate t lines).lines).lines = (annotate t lines).lines := by
  refine ⟨sites_annotate t lines, fun u => ?_⟩
  have none : (annotate u (annotate t lines).lines).kinds = [] := by
    rw [kinds_annotate, undocumented_annotate, List.map_nil]
  refine ⟨added_annotate_annotate t u lines, ?_, ?_⟩
  · rw [Annotated.byKind, none]
    rfl
  · rw [lines_eq_keptLines none, keptLines_annotate]

theorem wellCut_piecesFrom {t : Template} (ht : '\n' ∉ t.placeholder.toList)
    {rest : List String} (h : WellCut rest) (written : List String) :
    WellCut ((piecesFrom t written rest).flatMap Piece.lines) := by
  induction h generalizing written with
  | nil => exact .nil
  | @last line ne noFeed =>
      have hfeed := (WellCut.last ne noFeed).feed_not_mem_dropLast List.mem_cons_self
      unfold piecesFrom
      split
      · rename_i header note hn
        exact WellCut.append (fun l hl => ended_of_mem_noteFor? hn hfeed ht hl) (.last ne noFeed)
      · exact .last ne noFeed
  | @cons line rest ended cut ih =>
      have hfeed := (WellCut.cons ended cut).feed_not_mem_dropLast List.mem_cons_self
      unfold piecesFrom
      split
      · rename_i header note hn
        exact WellCut.append (fun l hl => ended_of_mem_noteFor? hn hfeed ht hl)
          (.cons ended (ih _))
      · exact .cons ended (ih _)

/-- The lines of an annotated text are those that its content is read back as. -/
theorem lines_content_annotate {t : Template} (ht : '\n' ∉ t.placeholder.toList)
    (text : String) :
    Text.lines (annotate t (Text.lines text)).content =
      (annotate t (Text.lines text)).lines :=
  lines_unlines (wellCut_piecesFrom ht (wellCut_lines text) [])

end HeaderNotes.Source

import HeaderNotes.Proofs.Source.Stability

/-!
Line endings. A text whose line feeds all stand behind a carriage return keeps this form when it is
annotated, and so does a text in which none of them does. The lines of a note take the ending of
their header or, if it has none, of the line above it; and no line of a note has a carriage return
of its own in front of its ending, since what it shows of the parameters is trimmed.
-/

namespace HeaderNotes

namespace Text

/-- Every line feed of a text stands right behind a carriage return; or none does, for `false`. -/
def FeedsReturned (returned : Bool) (cs : List Char) : Prop :=
  ∀ front back, cs = front ++ '\n' :: back → (front.getLast? = some '\r' ↔ returned)

theorem feedsReturned_of_no_feed {cs : List Char} (h : '\n' ∉ cs) (returned : Bool) :
    FeedsReturned returned cs := by
  rintro front back rfl
  exact absurd (by simp) h

theorem feedsReturned_ended {body : List Char} (hb : '\n' ∉ body) (returned : Bool)
    (rest : List Char) :
    FeedsReturned returned (body ++ '\n' :: rest) ↔
      (body.getLast? = some '\r' ↔ returned) ∧ FeedsReturned returned rest := by
  -- A line feed ends the first line, so it is no carriage return for a feed right behind it.
  have further : ∀ front : List Char,
      (body ++ '\n' :: front).getLast? = some '\r' ↔ front.getLast? = some '\r' := by
    intro front
    cases hf : front.getLast? <;> simp [List.getLast?_append, List.getLast?_cons, hf]
  constructor
  · intro h
    refine ⟨h body rest rfl, fun front back hrest => ?_⟩
    rw [← further]
    exact h (body ++ '\n' :: front) back (by simp [hrest])
  · rintro ⟨hbody, hrest⟩ front back hcut
    rcases List.append_eq_append_iff.mp hcut with ⟨more, rfl, hmore⟩ | ⟨more, rfl, hmore⟩
    · cases more with
      | nil => simpa using hbody
      | cons c more =>
          obtain ⟨rfl, rfl⟩ := List.cons.inj hmore
          rw [further]
          exact hrest more back rfl
    · cases more with
      | nil => simpa using hbody
      | cons c more =>
          obtain ⟨rfl, _⟩ := List.cons.inj hmore
          exact absurd (by simp) hb

end Text

namespace Source

open HeaderNotes.Text

theorem endsInLf_of_ended {line : String} (h : Ended line) : endsInLf line := by
  rw [endsInLf, h.getLast?_eq]
  rfl

theorem not_endsInLf_of_no_feed {line : String} (h : '\n' ∉ line.toList) :
    endsInLf line = false := by
  rw [Bool.eq_false_iff, Ne, endsInLf, beq_iff_eq]
  exact fun hl => h (List.mem_of_getLast? hl)

theorem endsInCrLf_iff {line : String} {body : List Char} (h : line.toList = body ++ ['\n']) :
    endsInCrLf line ↔ body.getLast? = some '\r' := by
  have hrev : line.toList.reverse = '\n' :: body.reverse := by simp [h]
  unfold endsInCrLf
  rw [hrev, ← List.head?_reverse]
  split
  · rename_i front heq
    rw [(List.cons.inj heq).2]
    simp
  · rename_i hne
    cases hb : body.reverse with
    | nil => simp
    | cons c front =>
        have hc : c ≠ '\r' := by
          rintro rfl
          exact hne front (by rw [hb])
        simp [hc]

theorem endsInLf_of_endsInCrLf {line : String} (h : endsInCrLf line) : endsInLf line := by
  unfold endsInCrLf at h
  split at h
  · rename_i front heq
    rw [endsInLf, ← List.head?_reverse, heq]
    rfl
  · simp at h

/-- If a text has any line feed, one ends its first line. -/
theorem endsInLf_head {ls : List String} (cut : WellCut ls) (h : '\n' ∈ (unlines ls).toList)
    {line : String} (hl : line ∈ ls.head?) : endsInLf line := by
  cases cut with
  | nil => simp at hl
  | last ne noFeed => exact absurd (by simpa using h) noFeed
  | cons ended cut =>
      obtain rfl := Option.some.inj hl
      exact endsInLf_of_ended ended

/-- The line endings of a text are those of its lines. -/
theorem feedsReturned_unlines {ls : List String} (cut : WellCut ls) (returned : Bool) :
    FeedsReturned returned (unlines ls).toList ↔
      ∀ line ∈ ls, endsInLf line → endsInCrLf line = returned := by
  rw [toList_unlines]
  induction cut with
  | nil => simpa using feedsReturned_of_no_feed List.not_mem_nil returned
  | @last line ne noFeed =>
      have hline : FeedsReturned returned line.toList := feedsReturned_of_no_feed noFeed returned
      simpa [not_endsInLf_of_no_feed noFeed] using hline
  | @cons line rest ended cut ih =>
      have hended := endsInLf_of_ended ended
      obtain ⟨body, hl, noFeed⟩ := ended
      rw [List.flatMap_cons, hl, List.append_assoc, List.singleton_append,
        feedsReturned_ended noFeed, ih, List.forall_mem_cons, ← endsInCrLf_iff hl, Bool.eq_iff_iff]
      simp [hended]

instance (returned : Bool) (cs : List Char) : Decidable (FeedsReturned returned cs) :=
  decidable_of_iff (∀ line ∈ lines (.ofList cs), endsInLf line → endsInCrLf line = returned) <| by
    rw [← feedsReturned_unlines (wellCut_lines _), unlines_lines, String.toList_ofList]

/-- The one ending that the lines of a text have in common. -/
def ending (returned : Bool) : String :=
  if returned then "\r\n" else "\n"

theorem terminator_eq_ending {returned : Bool} {line : String} {previous : Option String}
    (hl : endsInLf line → endsInCrLf line = returned)
    (hp : endsInLf line = false → previous.any endsInCrLf = returned) :
    terminator line previous = ending returned := by
  unfold terminator
  cases hlf : endsInLf line with
  | true =>
      rw [hl hlf]
      cases returned <;> rfl
  | false =>
      have hcrlf : endsInCrLf line = false := by
        rw [Bool.eq_false_iff]
        intro h
        simp [endsInLf_of_endsInCrLf h] at hlf
      rw [hcrlf, hp hlf]
      rfl

theorem getLast?_trim_ne (s : String) : (trim s).toList.getLast? ≠ some '\r' := by
  intro h
  rw [trim, String.toList_ofList, List.getLast?_reverse] at h
  have hhead := List.head?_dropWhile_not isBlank (skipBlanks s.toList).reverse
  rw [← skipBlanks, h] at hhead
  exact absurd hhead (by decide)

theorem getLast?_append_of_some {back : String} {c : Char} (h : back.toList.getLast? = some c)
    (front : String) : (front ++ back).toList.getLast? = some c := by
  rw [String.toList_append, List.getLast?_append, h, Option.some_or]

section NoteLines

variable {note : Note} {t : Template}

theorem getLast?_shownParameters_ne (ht : '\r' ∉ t.placeholder.toList) :
    (note.shownParameters t).toList.getLast? ≠ some '\r' := by
  simp only [Note.shownParameters]
  split
  · exact fun h => ht (List.mem_of_getLast? h)
  · exact getLast?_trim_ne note.parameters

theorem getLast?_summary (locale : Locale) (name : String) :
    (locale.summary name).toList.getLast? = some '.' := by
  cases locale <;> exact getLast?_append_of_some rfl _

theorem exists_getLast?_outputs (locale : Locale) :
    ∃ c, locale.outputs.toList.getLast? = some c ∧ c ≠ '\r' := by
  cases locale <;> exact ⟨_, rfl, by decide⟩

/-- Every line of a note has a last character, which is no carriage return. -/
theorem exists_getLast?_body (ht : '\r' ∉ t.placeholder.toList) {line : String}
    (hl : line ∈ note.body t) : ∃ c, line.toList.getLast? = some c ∧ c ≠ '\r' := by
  simp only [Note.body, List.mem_cons, List.not_mem_nil, or_false] at hl
  rcases hl with rfl | rfl | rfl | rfl | rfl
  · exact ⟨'*', rfl, by decide⟩
  · exact ⟨'.', getLast?_append_of_some (getLast?_summary t.locale note.name) _, by decide⟩
  · cases hs : (note.shownParameters t).toList.getLast? with
    | some c =>
        refine ⟨c, getLast?_append_of_some hs _, ?_⟩
        rintro rfl
        exact getLast?_shownParameters_ne ht hs
    | none =>
        -- Nothing is shown for the parameters, and the line ends in the blank before them.
        refine ⟨' ', ?_, by decide⟩
        rw [String.toList_append, List.getLast?_append, hs, Option.none_or]
        exact getLast?_append_of_some rfl _
  · obtain ⟨c, hc, ne⟩ := exists_getLast?_outputs t.locale
    exact ⟨c, getLast?_append_of_some hc _, ne⟩
  · exact ⟨'/', rfl, by decide⟩

theorem endsInCrLf_note (ht : '\r' ∉ t.placeholder.toList) {returned : Bool} {line : String}
    (hl : line ∈ note.lines t (ending returned)) : endsInCrLf line = returned := by
  obtain ⟨body, hb, rfl⟩ := List.mem_map.mp hl
  cases returned with
  | true =>
      have hline : (note.indentation ++ body ++ ending true).toList =
          (note.indentation.toList ++ body.toList ++ ['\r']) ++ ['\n'] := by
        simp [ending]
      rw [Bool.eq_iff_iff, endsInCrLf_iff hline]
      simp
  | false =>
      have hline : (note.indentation ++ body ++ ending false).toList =
          (note.indentation.toList ++ body.toList) ++ ['\n'] := by
        simp [ending]
      obtain ⟨c, hc, ne⟩ := exists_getLast?_body ht hb
      rw [Bool.eq_iff_iff, endsInCrLf_iff hline, List.getLast?_append, hc]
      simp [ne]

end NoteLines

section Run

variable {t : Template} {returned : Bool}

/-- A line of what is written below some lines belongs to the note of the first line, or is this
line, or is written below it. -/
theorem mem_lines_piecesFrom_cons {written : List String} {line : String} {rest : List String}
    {l : String} (h : l ∈ (piecesFrom t written (line :: rest)).flatMap Piece.lines) :
    (∃ header note, noteFor? t written line = some (header, note) ∧ l ∈ note) ∨ l = line ∨
      ∃ written', written'.head? = some line ∧
        l ∈ (piecesFrom t written' rest).flatMap Piece.lines := by
  obtain ⟨written', hs, hp⟩ := piecesFrom_cons (.refl written) t line rest
  rw [hp, List.flatMap_append, List.flatMap_cons, List.mem_append, List.mem_append] at h
  rcases h with h | h | h
  · cases hn : noteFor? t written line with
    | none => simp [hn] at h
    | some found => exact .inl ⟨found.1, found.2, rfl, by simpa [hn, Piece.lines] using h⟩
  · exact .inr (.inl (List.mem_singleton.mp h))
  · exact .inr (.inr ⟨written', hs.head, h⟩)

/-- The note of a line with the ending of the text, or below such a line, has this ending. -/
theorem endsInCrLf_noteFor? (ht : '\r' ∉ t.placeholder.toList) {written : List String}
    {line : String} {header : Header} {note : List String}
    (hn : noteFor? t written line = some (header, note))
    (hl : endsInLf line → endsInCrLf line = returned)
    (hw : endsInLf line = false → written.head?.any endsInCrLf = returned)
    {l : String} (h : l ∈ note) : endsInCrLf l = returned := by
  obtain ⟨_, _, rfl⟩ := noteFor?_eq_some hn
  rw [terminator_eq_ending hl hw] at h
  exact endsInCrLf_note ht h

/-- What is written below a line with the ending of the text has this ending as well. -/
theorem endsInCrLf_piecesFrom (ht : '\r' ∉ t.placeholder.toList) {rest : List String}
    (cut : WellCut rest) (hrest : ∀ line ∈ rest, endsInLf line → endsInCrLf line = returned)
    {written : List String}
    (hw : (∃ line ∈ rest.head?, endsInLf line = false) →
      written.head?.any endsInCrLf = returned)
    {l : String} (hl : l ∈ (piecesFrom t written rest).flatMap Piece.lines)
    (hf : endsInLf l) : endsInCrLf l = returned := by
  induction cut generalizing written with
  | nil => simp [piecesFrom] at hl
  | @last line ne noFeed =>
      have hline := hrest line List.mem_cons_self
      rcases mem_lines_piecesFrom_cons hl with ⟨header, note, hn, hm⟩ | rfl | ⟨written', _, hm⟩
      · exact endsInCrLf_noteFor? ht hn hline (fun h => hw ⟨line, rfl, h⟩) hm
      · exact hline hf
      · simp [piecesFrom] at hm
  | @cons line rest ended cut ih =>
      have hline := hrest line List.mem_cons_self
      rcases mem_lines_piecesFrom_cons hl with ⟨header, note, hn, hm⟩ | rfl | ⟨written', hh, hm⟩
      · exact endsInCrLf_noteFor? ht hn hline (fun h => hw ⟨line, rfl, h⟩) hm
      · exact hline hf
      · -- The line just written has an ending, which the next one may borrow.
        refine ih (fun l hl => hrest l (List.mem_cons_of_mem _ hl)) (fun _ => ?_) hm
        rw [hh]
        exact hline (endsInLf_of_ended ended)

theorem feedsReturned_content (hr : '\r' ∉ t.placeholder.toList)
    (hn : '\n' ∉ t.placeholder.toList) {text : String}
    (hfeed : returned → '\n' ∈ text.toList) (h : FeedsReturned returned text.toList) :
    FeedsReturned returned (annotate t (lines text)).content.toList := by
  have cut := wellCut_lines text
  rw [← unlines_lines text, feedsReturned_unlines cut] at h
  rw [Annotated.content, Annotated.lines, annotate,
    feedsReturned_unlines (wellCut_piecesFrom hn cut [])]
  intro l hl
  refine endsInCrLf_piecesFrom hr cut h ?_ hl
  rintro ⟨line, hline, hlf⟩
  cases returned with
  | false => rfl
  | true =>
      rw [← unlines_lines text] at hfeed
      simp [endsInLf_head cut (hfeed rfl) hline] at hlf

/-- A text keeps the form of its line endings when it is annotated: if it has line feeds and all of
them stand behind a carriage return, all do afterwards, and if none does, none does afterwards. -/
theorem content_line_endings (hr : '\r' ∉ t.placeholder.toList)
    (hn : '\n' ∉ t.placeholder.toList) (text : String) :
    ('\n' ∈ text.toList → FeedsReturned true text.toList →
      FeedsReturned true (annotate t (lines text)).content.toList) ∧
    (FeedsReturned false text.toList →
      FeedsReturned false (annotate t (lines text)).content.toList) := by
  refine ⟨fun hfeed h => ?_, fun h => ?_⟩
  · exact feedsReturned_content hr hn (fun _ => hfeed) h
  · exact feedsReturned_content hr hn (fun h => absurd h (by decide)) h

theorem content_line_endings_sample :
    (annotate {} (lines "a();\r\nf( b\r) \x7b")).added = 1 ∧
      FeedsReturned true (annotate {} (lines "a();\r\nf( b\r) \x7b")).content.toList ∧
      FeedsReturned false (annotate {} (lines "\rf( b\r) \x7b\r")).content.toList := by
  obtain ⟨returned, _⟩ := @content_line_endings {} (by decide) (by decide) "a();\r\nf( b\r) \x7b"
  obtain ⟨_, plain⟩ := @content_line_endings {} (by decide) (by decide) "\rf( b\r) \x7b\r"
  exact ⟨by decide +kernel, returned (by decide) (by decide +kernel), plain (by decide +kernel)⟩

end Run

end Source
end HeaderNotes

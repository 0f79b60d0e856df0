import HeaderNotes.Proofs.Header.Parts
import HeaderNotes.Proofs.Text.LineCuts
import HeaderNotes.Source.Annotated

/-!
Headers and comments. A line that starts like a comment is no header, so the look-behind stops at a
header and finds nothing there. Every line of a note starts like a comment, so none of them is a
header and the look-behind stops at the note. Each is ended by one line feed, given that the header
was read off a line with none inside it.
-/

namespace HeaderNotes.Source

open HeaderNotes.Text

theorem startsComment_iff {line : String} :
    startsComment line ↔ (∃ rest, skipBlanks line.toList = '*' :: rest) ∨
      (∃ rest, skipBlanks line.toList = '/' :: '*' :: rest) ∨
      ∃ rest, skipBlanks line.toList = '/' :: '/' :: rest := by
  unfold startsComment
  split <;> simp_all

theorem not_startsComment_of_startsName {line : String}
    (h : Header.StartsName (skipBlanks line.toList)) : startsComment line = false := by
  obtain ⟨c, rest, hc, hn⟩ := h
  rw [Bool.eq_false_iff, Ne, startsComment_iff, hc]
  have hstar : c ≠ '*' := by rintro rfl; exact absurd hn (by decide)
  have hslash : c ≠ '/' := by rintro rfl; exact absurd hn (by decide)
  simp [hstar, hslash]

theorem not_startsComment_of_header {line : String} {h : Header}
    (hl : Header.ofLine? line = some h) : startsComment line = false :=
  not_startsComment_of_startsName (Header.ofLine?_startsName hl)

theorem ofLine?_eq_none_of_startsComment {line : String} (h : startsComment line) :
    Header.ofLine? line = none := by
  cases hl : Header.ofLine? line with
  | none => rfl
  | some header => simp [not_startsComment_of_header hl] at h

theorem not_allBlank_of_startsComment {line : String} (h : startsComment line) :
    allBlank line = false := by
  rw [Bool.eq_false_iff]
  intro hb
  simp [startsComment_iff, Header.skipBlanks_of_allBlank hb] at h

theorem commentWithin_of_not_allBlank {line : String} (h : allBlank line = false)
    (blanks : Nat) (above : List String) :
    commentWithin blanks (line :: above) = startsComment line := by
  unfold commentWithin
  simp [h]

theorem commentWithin_comment {line : String} (h : startsComment line) (blanks : Nat)
    (above : List String) : commentWithin blanks (line :: above) = true := by
  rw [commentWithin_of_not_allBlank (not_allBlank_of_startsComment h), h]

/-- The look-behind stops at a header, whatever stands above it. -/
theorem commentWithin_header {line : String} {h : Header} (hl : Header.ofLine? line = some h)
    (blanks : Nat) (above : List String) : commentWithin blanks (line :: above) = false := by
  rw [commentWithin_of_not_allBlank (Header.ofLine?_not_allBlank hl),
    not_startsComment_of_header hl]

/-- The look-behind stops at the last of some comment lines, whatever stands above them. -/
theorem documentedBelow_comments {comments : List String} (ne : comments ≠ [])
    (hc : ∀ line ∈ comments, startsComment line) (above : List String) :
    documentedBelow (comments.reverse ++ above) = true := by
  obtain ⟨last, front, hrev⟩ := List.exists_cons_of_ne_nil (List.reverse_ne_nil_iff.mpr ne)
  have hlast : last ∈ comments := List.mem_reverse.mp (hrev ▸ List.mem_cons_self)
  rw [hrev, List.cons_append, documentedBelow]
  exact commentWithin_comment (hc last hlast) _ _

theorem mem_of_mem_trim {s : String} {c : Char} (h : c ∈ (trim s).toList) : c ∈ s.toList := by
  simp only [trim, String.toList_ofList, List.mem_reverse, skipBlanks] at h
  exact (List.dropWhile_sublist _).subset
    (List.mem_reverse.mp ((List.dropWhile_sublist _).subset h))

/-- Every line of a note starts like a comment behind its blanks. -/
theorem startsComment_note {note : Note} (hi : ∀ c ∈ note.indentation.toList, isBlank c)
    (t : Template) (terminator : String) {line : String}
    (hl : line ∈ note.lines t terminator) : startsComment line := by
  obtain ⟨body, hb, rfl⟩ := List.mem_map.mp hl
  have hspace : ∀ cs, skipBlanks (' ' :: '*' :: cs) = '*' :: cs := fun _ => rfl
  have hslash : ∀ cs, skipBlanks ('/' :: cs) = '/' :: cs := fun _ => rfl
  simp only [startsComment_iff, String.toList_append, List.append_assoc, skipBlanks_append hi]
  simp only [Note.body, List.mem_cons, List.not_mem_nil, or_false] at hb
  rcases hb with rfl | rfl | rfl | rfl | rfl <;> simp [hspace, hslash]

/-- No line is both a header and a comment. A header is not blank, and the line below it is not
documented, whatever stands above it. None of the five lines of its note is a header, and the line
below them is documented, however the note is worded and its lines are ended. -/
theorem headers_apart_from_comments {line : String} {h : Header}
    (hl : Header.ofLine? line = some h) :
    allBlank line = false ∧
    (∀ above : List String, documentedAfter (above ++ [line]) = false) ∧
    ∀ (t : Template) (terminator : String),
      let note := (Note.ofHeader h).lines t terminator
      note.length = 5 ∧ (∀ l ∈ note, Header.ofLine? l = none) ∧
        ∀ above : List String, documentedAfter (above ++ note) = true := by
  refine ⟨Header.ofLine?_not_allBlank hl, fun above => ?_, fun t terminator => ?_⟩
  · rw [documentedAfter, List.reverse_concat]
    exact commentWithin_header hl _ _
  · have hlength := Note.length_lines (Note.ofHeader h) t terminator
    -- Each line starts with the header's own indentation, which the look-behind skips.
    have hc : ∀ l ∈ (Note.ofHeader h).lines t terminator, startsComment l :=
      fun l hm => startsComment_note (fun _ => Header.ofLine?_isBlank_indentation hl) t _ hm
    refine ⟨hlength, fun l hm => ofLine?_eq_none_of_startsComment (hc l hm), fun above => ?_⟩
    rw [documentedAfter, List.reverse_append]
    exact documentedBelow_comments (List.ne_nil_of_length_eq_add_one hlength) hc _

theorem headers_apart_from_comments_sample :
    let line := "\u3000go( ) \x7b\r\n"
    let note := (Note.ofHeader ⟨"\u3000", "go", " ", .bareMethod⟩).lines
      ⟨.english, some "\nfunction f() \x7b"⟩ ") \x7b\n"
    let inputs := "\u3000 * Inputs: \nfunction f() \x7b) \x7b\n"
    (allBlank line = false ∧ documentedAfter (["// a\n"] ++ [line]) = false) ∧
      (inputs ∈ note ∧ Header.ofLine? inputs = none) ∧
      documentedAfter (["g();\n"] ++ note) = true := by
  intro line note inputs
  have read : Header.ofLine? line = some ⟨"\u3000", "go", " ", .bareMethod⟩ := by decide +kernel
  have shown : inputs ∈ note := by decide +kernel
  obtain ⟨visible, header, comment⟩ := headers_apart_from_comments read
  obtain ⟨_, noHeader, documented⟩ :=
    comment ⟨.english, some "\nfunction f() \x7b"⟩ ") \x7b\n"
  exact ⟨⟨visible, header _⟩, ⟨shown, noHeader inputs shown⟩, documented _⟩

theorem ended_terminator (line : String) (previous : Option String) :
    Ended (terminator line previous) := by
  have crlf : Ended "\r\n" := ⟨['\r'], rfl, by decide⟩
  have lf : Ended "\n" := ⟨[], rfl, by decide⟩
  unfold terminator
  split
  · exact crlf
  · split
    · exact lf
    · split
      · exact crlf
      · exact lf

theorem Ended.append_left {front line : String} (hf : '\n' ∉ front.toList) (hl : Ended line) :
    Ended (front ++ line) := by
  obtain ⟨body, hb, noFeed⟩ := hl
  exact ⟨front.toList ++ body, by simp [hb], by simp [hf, noFeed]⟩

section NoteLines

variable {note : Note} {t : Template}

theorem feed_not_mem_shownParameters (hp : '\n' ∉ note.parameters.toList)
    (ht : '\n' ∉ t.placeholder.toList) : '\n' ∉ (note.shownParameters t).toList := by
  simp only [Note.shownParameters]
  split
  · exact ht
  · exact fun hm => hp (mem_of_mem_trim hm)

theorem feed_not_mem_summary (locale : Locale) {name : String} (hn : '\n' ∉ name.toList) :
    '\n' ∉ (locale.summary name).toList := by
  unfold Locale.summary
  split <;> simp [hn]

theorem feed_not_mem_inputs (locale : Locale) : '\n' ∉ locale.inputs.toList := by
  cases locale <;> decide

theorem feed_not_mem_outputs (locale : Locale) : '\n' ∉ locale.outputs.toList := by
  cases locale <;> decide

theorem feed_not_mem_body (hn : '\n' ∉ note.name.toList) (hp : '\n' ∉ note.parameters.toList)
    (ht : '\n' ∉ t.placeholder.toList) {line : String} (hl : line ∈ note.body t) :
    '\n' ∉ line.toList := by
  simp only [Note.body, List.mem_cons, List.not_mem_nil, or_false] at hl
  rcases hl with rfl | rfl | rfl | rfl | rfl
  · decide
  · simp [feed_not_mem_summary t.locale hn]
  · simp [feed_not_mem_inputs t.locale, feed_not_mem_shownParameters hp ht]
  · simp [feed_not_mem_outputs t.locale]
  · decide

theorem ended_note (hi : '\n' ∉ note.indentation.toList) (hn : '\n' ∉ note.name.toList)
    (hp : '\n' ∉ note.parameters.toList) (ht : '\n' ∉ t.placeholder.toList)
    {terminator : String} (hterm : Ended terminator) {line : String}
    (hl : line ∈ note.lines t terminator) : Ended line := by
  obtain ⟨body, hb, rfl⟩ := List.mem_map.mp hl
  apply Ended.append_left _ hterm
  simpa using ⟨hi, feed_not_mem_body hn hp ht hb⟩

end NoteLines

end HeaderNotes.Source

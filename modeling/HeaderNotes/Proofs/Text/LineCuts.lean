import HeaderNotes.Text.Lines

/-!
The lists of lines that come from cutting a text. In such a list a line feed ends every line,
except perhaps the last, and stands nowhere else. Cutting a text gives a list of this form, and
every list of this form is what its own text is cut into. So lines that are put between the lines
of a text, each ended by its one line feed, are found again as they are.
-/

namespace HeaderNotes.Text

/-- A line feed ends the line and stands nowhere else in it. -/
def Ended (line : String) : Prop :=
  ∃ body, line.toList = body ++ ['\n'] ∧ '\n' ∉ body

/-- Lists of lines as they come from cutting a text. -/
inductive WellCut : List String → Prop
  | nil : WellCut []
  | last {line : String} (ne : line ≠ "") (noFeed : '\n' ∉ line.toList) : WellCut [line]
  | cons {line : String} {rest : List String} (ended : Ended line) (cut : WellCut rest) :
      WellCut (line :: rest)

theorem cutLines_ended {body : List Char} (h : '\n' ∉ body) (rest : List Char) :
    cutLines (body ++ '\n' :: rest) = (body ++ ['\n']) :: cutLines rest := by
  induction body with
  | nil => simp [cutLines_cons, consLine]
  | cons c body ih =>
      obtain ⟨hc, hb⟩ := not_or.mp (mt List.mem_cons.mpr h)
      simp [cutLines_cons, consLine, Ne.symm hc, ih hb]

theorem cutLines_unended {line : List Char} (ne : line ≠ []) (h : '\n' ∉ line) :
    cutLines line = [line] := by
  induction line with
  | nil => exact absurd rfl ne
  | cons c line ih =>
      obtain ⟨hc, hl⟩ := not_or.mp (mt List.mem_cons.mpr h)
      cases line with
      | nil => simp [cutLines_cons, consLine, Ne.symm hc]
      | cons d line => simp [cutLines_cons c, consLine, Ne.symm hc, ih (by simp) hl]

/-- No line of such a list has a line feed in front of its last character. -/
theorem WellCut.feed_not_mem_dropLast {ls : List String} (h : WellCut ls) {line : String}
    (hl : line ∈ ls) : '\n' ∉ line.toList.dropLast := by
  induction h with
  | nil => simp at hl
  | last ne noFeed =>
      obtain rfl := List.mem_singleton.mp hl
      exact fun hm => noFeed (List.dropLast_subset _ hm)
  | cons ended cut ih =>
      rcases List.mem_cons.mp hl with rfl | hl
      · obtain ⟨body, hb, noFeed⟩ := ended
        simpa [hb] using noFeed
      · exact ih hl

theorem WellCut.append {front back : List String} (hf : ∀ line ∈ front, Ended line)
    (hb : WellCut back) : WellCut (front ++ back) := by
  induction front with
  | nil => exact hb
  | cons line front ih =>
      have hrest := ih fun l hl => hf l (List.mem_cons_of_mem _ hl)
      exact .cons (hf line List.mem_cons_self) hrest

theorem wellCut_consLine (c : Char) {cut : List (List Char)}
    (h : WellCut (cut.map String.ofList)) : WellCut ((consLine c cut).map String.ofList) := by
  by_cases hc : c = '\n'
  · have ended : Ended (String.ofList [c]) := ⟨[], by simp [hc]⟩
    simpa [consLine, hc] using WellCut.cons ended h
  · cases cut with
    | nil =>
        have alone : WellCut [String.ofList [c]] := .last (by simp) (by simp [Ne.symm hc])
        simpa [consLine, hc] using alone
    | cons line cut =>
        simp only [consLine, hc, if_false, List.map_cons] at h ⊢
        generalize hcut : cut.map String.ofList = rest at h ⊢
        cases h with
        | last ne noFeed =>
            exact .last (by simp) (by simpa [Ne.symm hc] using noFeed)
        | cons ended rest =>
            obtain ⟨body, hb, noFeed⟩ := ended
            refine .cons ⟨c :: body, ?_, ?_⟩ rest
            · simpa using hb
            · simpa [Ne.symm hc] using noFeed

theorem wellCut_lines (text : String) : WellCut (lines text) := by
  unfold lines
  induction text.toList with
  | nil => exact .nil
  | cons c cs ih => exact wellCut_consLine c ih

theorem lines_unlines {ls : List String} (h : WellCut ls) : lines (unlines ls) = ls := by
  induction h with
  | nil => rfl
  | @last line ne noFeed =>
      have hne : line.toList ≠ [] := by simpa using ne
      simp [lines, cutLines_unended hne noFeed]
  | @cons line rest ended cut ih =>
      obtain ⟨body, hl, noFeed⟩ := ended
      have htail : (cutLines (rest.flatMap String.toList)).map String.ofList = rest := by
        simpa [lines] using ih
      have hhead : String.ofList (body ++ ['\n']) = line := by
        rw [← hl, String.ofList_toList]
      simp only [lines, toList_unlines, List.flatMap_cons, hl, List.append_assoc,
        List.singleton_append, cutLines_ended noFeed, List.map_cons, hhead, htail]

/-- No line is empty, a line feed stands only at the end of a line, and every line but the last
ends in one. -/
structure ProperLines (ls : List String) : Prop where
  ne_empty : ∀ line ∈ ls, line ≠ ""
  feed_last : ∀ line ∈ ls, '\n' ∉ line.toList.dropLast
  ended : ∀ line ∈ ls.dropLast, line.toList.getLast? = some '\n'

theorem ended_of_getLast? {line : String} (h : line.toList.getLast? = some '\n')
    (hfeed : '\n' ∉ line.toList.dropLast) : Ended line := by
  obtain ⟨body, hl⟩ := List.getLast?_eq_some_iff.mp h
  refine ⟨body, hl, ?_⟩
  simpa [hl] using hfeed

theorem feed_not_mem {line : String} (h : line.toList.getLast? ≠ some '\n')
    (hfeed : '\n' ∉ line.toList.dropLast) : '\n' ∉ line.toList := by
  rcases List.eq_nil_or_concat line.toList with hnil | ⟨front, last, hl⟩
  · simp [hnil]
  · rw [List.concat_eq_append] at hl
    rw [hl] at h hfeed ⊢
    have hlast : last ≠ '\n' := by simpa using h
    simpa [Ne.symm hlast] using hfeed

theorem ProperLines.wellCut {ls : List String} (h : ProperLines ls) : WellCut ls := by
  induction ls with
  | nil => exact .nil
  | cons line rest ih =>
      have hfeed := h.feed_last line List.mem_cons_self
      cases rest with
      | nil =>
          by_cases hlast : line.toList.getLast? = some '\n'
          · exact .cons (ended_of_getLast? hlast hfeed) .nil
          · exact .last (h.ne_empty line List.mem_cons_self) (feed_not_mem hlast hfeed)
      | cons next rest =>
          have hlast := h.ended line (by simp)
          refine .cons (ended_of_getLast? hlast hfeed) (ih ⟨?_, ?_, ?_⟩)
          · exact fun l hl => h.ne_empty l (List.mem_cons_of_mem _ hl)
          · exact fun l hl => h.feed_last l (List.mem_cons_of_mem _ hl)
          · exact fun l hl => h.ended l (by simp [hl])

theorem Ended.ne_empty {line : String} (h : Ended line) : line ≠ "" := by
  obtain ⟨body, hl, _⟩ := h
  rintro rfl
  simp at hl

theorem Ended.getLast?_eq {line : String} (h : Ended line) : line.toList.getLast? = some '\n' := by
  obtain ⟨body, hl, _⟩ := h
  simp [hl]

theorem WellCut.properLines {ls : List String} (h : WellCut ls) : ProperLines ls := by
  refine ⟨?_, fun line hl => h.feed_not_mem_dropLast hl, ?_⟩
  · induction h with
    | nil => simp
    | last ne noFeed => simpa using ne
    | cons ended cut ih => exact List.forall_mem_cons.mpr ⟨ended.ne_empty, ih⟩
  · induction h with
    | nil => simp
    | last ne noFeed => simp
    | @cons line rest ended cut ih =>
        cases rest with
        | nil => simp
        | cons next rest => exact List.forall_mem_cons.mpr ⟨ended.getLast?_eq, ih⟩

end HeaderNotes.Text

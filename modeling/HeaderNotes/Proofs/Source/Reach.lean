import HeaderNotes.Proofs.Source.Agreement

/-!
The reach of the look-behind. It finds a comment exactly if one stands above with at most five blank
lines in between, so it never sees more than six lines; what stands further up in a file has no
influence on whether a header counts as documented.
-/

namespace HeaderNotes.Source

open HeaderNotes.Text

/-- What a comment, or a line inside one, starts with. -/
def commentMarks : List String := ["/*", "*", "//"]

/-- A comment that is followed by at most `limit` blank lines and nothing else. -/
structure TrailingComment (limit : Nat) (comment : String) (gap : List String) : Prop where
  near : gap.length ≤ limit
  blank : ∀ line ∈ gap, allBlank line
  visible : allBlank comment = false
  marked : ∃ mark ∈ commentMarks, mark.toList <+: skipBlanks comment.toList

theorem startsComment_iff_mark {line : String} :
    startsComment line ↔ ∃ mark ∈ commentMarks, mark.toList <+: skipBlanks line.toList := by
  have starts_iff : ∀ mark cs : List Char, mark <+: cs ↔ ∃ rest, cs = mark ++ rest :=
    fun mark cs => exists_congr fun rest => eq_comm
  rw [startsComment_iff]
  simp only [commentMarks, List.mem_cons, List.not_mem_nil, or_false, exists_eq_or_imp,
    exists_eq_left, starts_iff]
  exact or_left_comm

theorem TrailingComment.cons {limit : Nat} {comment : String} {gap : List String}
    (h : TrailingComment limit comment gap) {line : String} (hl : allBlank line) :
    TrailingComment (limit + 1) comment (line :: gap) :=
  ⟨Nat.succ_le_succ h.near, List.forall_mem_cons.mpr ⟨hl, h.blank⟩, h.visible, h.marked⟩

theorem TrailingComment.tail {limit : Nat} {comment line : String} {gap : List String}
    (h : TrailingComment (limit + 1) comment (line :: gap)) : TrailingComment limit comment gap :=
  ⟨Nat.le_of_succ_le_succ h.near, (List.forall_mem_cons.mp h.blank).2, h.visible, h.marked⟩

/-- What the search finds among the lines above, nearest first. -/
theorem commentWithin_iff {limit : Nat} {above : List String} :
    commentWithin limit above ↔
      ∃ gap comment further, above = gap ++ comment :: further ∧
        TrailingComment limit comment gap := by
  induction above generalizing limit with
  | nil => simp [commentWithin]
  | cons line above ih =>
      cases hb : allBlank line with
      | false =>
          rw [commentWithin_of_not_allBlank hb]
          constructor
          · intro hc
            exact ⟨[], line, above, rfl, Nat.zero_le _, by simp, hb, startsComment_iff_mark.mp hc⟩
          · rintro ⟨gap, comment, further, hcut, found⟩
            cases gap with
            | nil =>
                obtain ⟨rfl, rfl⟩ := List.cons.inj hcut
                exact startsComment_iff_mark.mpr found.marked
            | cons first gap =>
                obtain ⟨rfl, rfl⟩ := List.cons.inj hcut
                simp [found.blank line List.mem_cons_self] at hb
      | true =>
          -- A blank line is the nearest one of the gap and takes one step of the search.
          cases limit with
          | zero =>
              simp only [commentWithin, hb, if_true, Bool.false_eq_true, false_iff]
              rintro ⟨gap, comment, further, hcut, found⟩
              obtain rfl : gap = [] := List.length_eq_zero_iff.mp (Nat.le_zero.mp found.near)
              obtain ⟨rfl, rfl⟩ := List.cons.inj hcut
              simp [found.visible] at hb
          | succ limit =>
              simp only [commentWithin, hb, if_true, ih]
              constructor
              · rintro ⟨gap, comment, further, rfl, found⟩
                exact ⟨line :: gap, comment, further, rfl, found.cons hb⟩
              · rintro ⟨gap, comment, further, hcut, found⟩
                cases gap with
                | nil =>
                    obtain ⟨rfl, rfl⟩ := List.cons.inj hcut
                    simp [found.visible] at hb
                | cons first gap =>
                    obtain ⟨rfl, rfl⟩ := List.cons.inj hcut
                    exact ⟨gap, comment, further, rfl, found.tail⟩

/-- The search ends before it has seen more lines than one beyond its limit. -/
theorem commentWithin_append {limit : Nat} {near : List String} (h : limit < near.length)
    (further : List String) :
    commentWithin limit (near ++ further) = commentWithin limit near := by
  induction near generalizing limit with
  | nil => simp at h
  | cons line near ih =>
      cases limit with
      | zero => rfl
      | succ limit =>
          simp only [List.cons_append, commentWithin, ih (Nat.lt_of_succ_lt_succ h)]

theorem documentedAfter_iff {lines : List String} :
    documentedAfter lines ↔
      ∃ front comment gap, lines = front ++ comment :: gap ∧
        TrailingComment maxBlankLines comment gap := by
  rw [documentedAfter, documentedBelow, commentWithin_iff]
  constructor
  · rintro ⟨gap, comment, further, hcut, found⟩
    refine ⟨further.reverse, comment, gap.reverse, ?_, ?_⟩
    · rw [← List.reverse_reverse lines, hcut]
      simp
    · exact ⟨by simpa using found.near, by simpa using found.blank, found.visible, found.marked⟩
  · rintro ⟨front, comment, gap, rfl, found⟩
    refine ⟨gap.reverse, comment, front.reverse, by simp, ?_⟩
    exact ⟨by simpa using found.near, by simpa using found.blank, found.visible, found.marked⟩

theorem documentedAfter_append (further : List String) {near : List String}
    (h : maxBlankLines < near.length) :
    documentedAfter (further ++ near) = documentedAfter near := by
  rw [documentedAfter, documentedAfter, List.reverse_append, documentedBelow, documentedBelow,
    commentWithin_append (by simpa using h)]

/-- Only the last six of the lines above a place count. -/
theorem documentedAfter_drop (lines : List String) :
    documentedAfter (lines.drop (lines.length - (maxBlankLines + 1))) = documentedAfter lines := by
  by_cases h : maxBlankLines < lines.length
  · have hlast : maxBlankLines < (lines.drop (lines.length - (maxBlankLines + 1))).length := by
      rw [List.length_drop]
      omega
    rw [← documentedAfter_append (lines.take (lines.length - (maxBlankLines + 1))) hlast,
      List.take_append_drop]
  · rw [Nat.sub_eq_zero_of_le (by omega), List.drop_zero]

/-- A site is judged by the lines above it. -/
theorem documented_of_mem_sitesFrom {above rest : List String} {s : Site}
    (h : s ∈ sitesFrom above rest) :
    s.line ≤ above.length + rest.length ∧
      s.documented =
        documentedBelow ((rest.take (s.line - 1 - above.length)).reverse ++ above) := by
  induction rest generalizing above with
  | nil => simp [sitesFrom] at h
  | cons line rest ih =>
      have later : s ∈ sitesFrom (line :: above) rest →
          s.line ≤ above.length + (line :: rest).length ∧
            s.documented = documentedBelow
              (((line :: rest).take (s.line - 1 - above.length)).reverse ++ above) := by
        intro hs
        have hgt := line_gt_of_mem_sitesFrom hs
        obtain ⟨hle, hd⟩ := ih hs
        simp only [List.length_cons] at hgt hle hd ⊢
        refine ⟨by omega, ?_⟩
        rw [hd, show s.line - 1 - above.length = (s.line - 1 - (above.length + 1)) + 1 by omega,
          List.take_succ_cons, List.reverse_cons, List.append_assoc, List.singleton_append]
      unfold sitesFrom at h
      split at h
      · rcases List.mem_cons.mp h with rfl | hs
        · simp
        · exact later hs
      · exact later h

/-- The line below some lines is documented exactly if these end in a comment with at most five
blank lines behind it. So nothing but the last six lines counts, and a header of a file is judged by
the six lines above it. -/
theorem lookbehind_reach (lines : List String) :
    (documentedAfter lines ↔
      ∃ front comment gap, lines = front ++ [comment] ++ gap ∧ TrailingComment 5 comment gap) ∧
    (∀ near : List String, 6 ≤ near.length →
      documentedAfter (lines ++ near) = documentedAfter near) ∧
    ∀ s ∈ sites lines,
      s.documented = documentedAfter ((lines.take (s.line - 1)).drop (s.line - 7)) := by
  refine ⟨?_, fun near h => documentedAfter_append lines h, fun s hs => ?_⟩
  · simp only [List.append_assoc, List.singleton_append]
    exact documentedAfter_iff
  · obtain ⟨hle, hd⟩ := documented_of_mem_sitesFrom hs
    simp only [List.length_nil, Nat.zero_add, Nat.sub_zero, List.append_nil] at hle hd
    have last := documentedAfter_drop (lines.take (s.line - 1))
    have hlength : (lines.take (s.line - 1)).length - (maxBlankLines + 1) = s.line - 7 := by
      rw [List.length_take, maxBlankLines]
      omega
    rw [hlength] at last
    rw [hd, last, documentedAfter]

/-- Five blank lines, each of another kind. -/
def blankSample : List String := ["\n", " \r\n", "\t\n", "\u3000\n", "\u00a0\n"]

theorem lookbehind_reach_sample :
    documentedAfter (["f();\n"] ++ ["\u2003* a\n"] ++ blankSample) ∧
      documentedAfter (["// a\n"] ++ "\n" :: blankSample) = false ∧
      ∃ s ∈ sites ("f();\n" :: "// a\n" :: blankSample ++ ["function f() \x7b\n"]),
        s.documented = documentedAfter ("// a\n" :: blankSample) := by
  have found : (⟨8, ⟨"", "f", "", .declaration⟩, true⟩ : Site) ∈
      sites ("f();\n" :: "// a\n" :: blankSample ++ ["function f() \x7b\n"]) := by
    decide +kernel
  refine ⟨?_, ?_, _, found, (lookbehind_reach _).2.2 _ found⟩
  · exact (lookbehind_reach _).1.mpr ⟨_, _, _, rfl, by decide, by decide, by decide, by decide⟩
  · rw [(lookbehind_reach ["// a\n"]).2.1 _ (by decide)]
    decide

end HeaderNotes.Source

import HeaderNotes.Note.Block
import HeaderNotes.Proofs.Header.Lookahead
import HeaderNotes.Text.Lines

/-!
Notes as comments. A note opens a comment in its first line and ends with a closing mark, and
neither its wording nor the name of the function closes it before. What it shows for the parameters
is pasted as it stands, so the comment ends with the note exactly if no closing mark stands there.
-/

namespace HeaderNotes

namespace Text

/-- How often a text closes a comment: by a star with a slash behind it. -/
def closings : List Char → Nat
  | '*' :: '/' :: rest => closings rest + 1
  | _ :: rest => closings rest
  | [] => 0

/-- What follows the comment that a text starts inside of, if the comment ends. -/
def behindComment? : List Char → Option (List Char)
  | '*' :: '/' :: rest => some rest
  | _ :: rest => behindComment? rest
  | [] => none

theorem closings_cons (c : Char) (cs : List Char) :
    closings (c :: cs) = closings cs + if c = '*' ∧ cs.head? = some '/' then 1 else 0 := by
  cases cs with
  | nil => simp [closings]
  | cons d cs =>
      by_cases h : c = '*' ∧ d = '/'
      · obtain ⟨rfl, rfl⟩ := h
        simp [closings]
      · rw [closings.eq_2 c (d :: cs) (by simpa using h)]
        simp [h]

theorem closings_append (front : List Char) {back : List Char} (h : back.head? ≠ some '/') :
    closings (front ++ back) = closings front + closings back := by
  induction front with
  | nil => simp [closings]
  | cons c front ih =>
      cases front with
      | nil => simp [closings_cons, h, closings]
      | cons d front =>
          rw [List.cons_append, closings_cons, ih, closings_cons c (d :: front)]
          exact Nat.add_right_comm _ _ _

theorem closings_append_of_no_star {front : List Char} (h : '*' ∉ front) (back : List Char) :
    closings (front ++ back) = closings back := by
  induction front with
  | nil => rfl
  | cons c front ih =>
      simp only [List.mem_cons, not_or] at h
      simp [closings_cons, ih h.2, Ne.symm h.1]

theorem closings_of_no_star {cs : List Char} (h : '*' ∉ cs) : closings cs = 0 := by
  simpa [closings] using closings_append_of_no_star h []

theorem closings_eq_of_behindComment? {cs rest : List Char}
    (h : behindComment? cs = some rest) : closings cs = closings rest + 1 := by
  fun_induction behindComment? cs with
  | case1 rest' =>
      obtain rfl := Option.some.inj h
      simp [closings]
  | case2 c cs hc ih => rw [closings.eq_2 c cs hc, ih h]
  | case3 => simp at h

/-- A comment ends at a closing mark exactly if none stands before it. -/
theorem behindComment?_append_iff {front rest : List Char} :
    behindComment? (front ++ '*' :: '/' :: rest) = some rest ↔ closings front = 0 := by
  constructor
  · intro h
    have total := closings_eq_of_behindComment? h
    rw [closings_append front (by simp)] at total
    simp only [closings] at total
    omega
  · intro h
    induction front with
    | nil => rfl
    | cons c front ih =>
        rw [closings_cons] at h
        have apart : ∀ more, c = '*' → front ++ '*' :: '/' :: rest = '/' :: more → False := by
          intro more hc hm
          cases front with
          | nil => simp at hm
          | cons d front => simp_all
        rw [List.cons_append, behindComment?.eq_2 c _ apart]
        exact ih (by omega)

theorem ne_of_isBlank {mark : Char} (hm : isBlank mark = false) {c : Char} (hc : isBlank c) :
    c ≠ mark := by
  rintro rfl
  simp [hm] at hc

theorem star_not_mem_blanks {blanks : List Char} (h : ∀ c ∈ blanks, isBlank c) :
    '*' ∉ blanks :=
  fun hm => ne_of_isBlank (by decide) (h '*' hm) rfl

theorem head?_blanks_ne_slash {blanks : List Char} (h : ∀ c ∈ blanks, isBlank c) :
    blanks.head? ≠ some '/' :=
  fun hs => ne_of_isBlank (by decide) (h '/' (List.mem_of_mem_head? hs)) rfl

/-- Trimming takes blanks off either end. -/
theorem exists_blanks_trim (s : String) :
    ∃ front back, (∀ c ∈ front, isBlank c) ∧ (∀ c ∈ back, isBlank c) ∧
      s.toList = front ++ ((trim s).toList ++ back) := by
  have blank : ∀ cs, ∀ c ∈ leadingBlanks cs, isBlank c := fun _ _ hc => List.mem_takeWhile_imp hc
  refine ⟨leadingBlanks s.toList, (leadingBlanks (skipBlanks s.toList).reverse).reverse,
    blank _, fun c hc => blank _ c (List.mem_reverse.mp hc), ?_⟩
  have tail := congrArg List.reverse
    (leadingBlanks_append_skipBlanks (skipBlanks s.toList).reverse)
  rw [List.reverse_append, List.reverse_reverse] at tail
  rw [trim, String.toList_ofList, tail, leadingBlanks_append_skipBlanks]

theorem closings_trim (s : String) : closings (trim s).toList = closings s.toList := by
  obtain ⟨front, back, hf, hb, hs⟩ := exists_blanks_trim s
  rw [hs, closings_append_of_no_star (star_not_mem_blanks hf),
    closings_append _ (head?_blanks_ne_slash hb), closings_of_no_star (star_not_mem_blanks hb),
    Nat.add_zero]

theorem trim_isEmpty (s : String) : (trim s).isEmpty = allBlank s := by
  rw [Bool.eq_iff_iff, String.isEmpty_iff, ← String.toList_eq_nil_iff]
  constructor
  · intro h
    obtain ⟨front, back, hf, hb, hs⟩ := exists_blanks_trim s
    rw [h, List.nil_append] at hs
    rw [allBlank, hs, List.all_append]
    simp [List.all_eq_true.mpr hf, List.all_eq_true.mpr hb]
  · intro h
    rw [trim, Header.skipBlanks_of_allBlank h]
    rfl

end Text

namespace Header

open HeaderNotes.Text

section Names

variable {s : Signature} {name cs : List Char}

theorem name_of_parametersAndBrace? (h : parametersAndBrace? name cs = some s) :
    s.name = name := by
  simp only [parametersAndBrace?, Option.bind_eq_bind, Option.bind_eq_some_iff, Prod.exists,
    Option.ite_none_right_eq_some, Option.some.injEq] at h
  obtain ⟨parameters, rest, _, _, rfl⟩ := h
  rfl

theorem name_of_singleParameter? (h : singleParameter? name cs = some s) : s.name = name := by
  simp only [singleParameter?, Option.bind_eq_bind, Option.bind_eq_some_iff, Prod.exists,
    Option.ite_none_right_eq_some, Option.some.injEq] at h
  obtain ⟨parameter, rest, _, _, rfl⟩ := h
  rfl

theorem name_of_functionValue? (h : functionValue? name cs = some s) : s.name = name := by
  obtain ⟨rest, _, hp⟩ := Option.bind_eq_some_iff.mp h
  exact name_of_parametersAndBrace? hp

end Names

/-- The name is made of characters of names. -/
def Signature.Named (s : Signature) : Prop :=
  ∀ c ∈ s.name, isAnyNameChar c

theorem named_of_run? {p : Char → Bool} (hp : ∀ c, p c → isTargetChar c)
    {s : Signature} {cs name rest : List Char} (hn : run? p cs = some (name, rest))
    (hs : s.name = name) : s.Named := by
  obtain ⟨_, hall, _⟩ := run?_eq_some hn
  intro c hc
  rw [hs] at hc
  exact isAnyNameChar_of_isTargetChar (hp c (hall c hc))

theorem named_of_binding? {s : Signature} {cs name rest : List Char}
    (hb : binding? cs = some (name, rest)) (hs : s.name = name) : s.Named := by
  simp only [binding?, Option.bind_eq_bind, Option.bind_eq_some_iff, Prod.exists,
    Option.some.injEq, Prod.mk.injEq] at hb
  obtain ⟨_, _, _, _, _, _, hn, _, _, rfl, _⟩ := hb
  exact named_of_run? (fun _ => isTargetChar_of_isNameChar) hn hs

theorem named_of_declaration? {s : Signature} {cs : List Char} (h : declaration? cs = some s) :
    s.Named := by
  simp only [declaration?, Option.bind_eq_bind, Option.bind_eq_some_iff, Prod.exists] at h
  obtain ⟨_, _, _, _, name, rest, hn, hp⟩ := h
  exact named_of_run? (fun _ => isTargetChar_of_isNameChar) hn (name_of_parametersAndBrace? hp)

theorem named_of_plainMethod? {s : Signature} {cs : List Char} (h : plainMethod? cs = some s) :
    s.Named := by
  simp only [plainMethod?, Option.bind_eq_bind, Option.bind_eq_some_iff, Prod.exists,
    Option.ite_none_left_eq_some] at h
  obtain ⟨name, rest, hn, _, hp⟩ := h
  obtain ⟨_, first, more, rfl, hfirst, hmore⟩ := identifier?_eq_some hn
  intro c hc
  rw [name_of_parametersAndBrace? hp] at hc
  rcases List.mem_cons.mp hc with rfl | hc
  · exact isAnyNameChar_of_isTargetChar (isTargetChar_of_isIdentifierStart hfirst)
  · simp [isAnyNameChar, hmore c hc]

/-- A header of any kind has a name made of characters of names. -/
theorem named_of_signature? {kind : Kind} {cs : List Char} {s : Signature}
    (h : signature? kind cs = some s) : s.Named := by
  cases kind with
  | declaration => exact named_of_declaration? h
  | asyncDeclaration =>
      simp only [signature?, asyncDeclaration?, Option.bind_eq_bind,
        Option.bind_eq_some_iff] at h
      obtain ⟨_, _, _, _, hd⟩ := h
      exact named_of_declaration? hd
  | exportedDeclaration =>
      simp only [signature?, exportedDeclaration?, Option.bind_eq_bind,
        Option.bind_eq_some_iff] at h
      obtain ⟨_, _, _, _, hd⟩ := h
      split at hd
      · obtain ⟨_, _, hd⟩ := Option.bind_eq_some_iff.mp hd
        exact named_of_declaration? hd
      · exact named_of_declaration? hd
  | arrow =>
      simp only [signature?, arrow?, Option.bind_eq_bind, Option.bind_eq_some_iff, Prod.exists,
        Option.ite_none_right_eq_some, Option.some.injEq] at h
      obtain ⟨name, _, hb, _, _, _, _, rfl⟩ := h
      exact named_of_binding? hb rfl
  | arrowSingleParam =>
      simp only [signature?, arrowSingleParam?, Option.bind_eq_bind, Option.bind_eq_some_iff,
        Prod.exists, Option.orElse_eq_orElse, Option.orElse_eq_or, Option.or_eq_some_iff] at h
      obtain ⟨name, _, hb, ⟨_, _, hs⟩ | ⟨_, hs⟩⟩ := h
      · exact named_of_binding? hb (name_of_singleParameter? hs)
      · exact named_of_binding? hb (name_of_singleParameter? hs)
  | assignedExpression =>
      simp only [signature?, assignedExpression?, Option.bind_eq_bind, Option.bind_eq_some_iff,
        Prod.exists] at h
      obtain ⟨_, _, hn, _, _, hf⟩ := h
      exact named_of_run? (fun _ hc => hc) hn (name_of_functionValue? hf)
  | objectMethod =>
      simp only [signature?, objectMethod?, Option.bind_eq_bind, Option.bind_eq_some_iff,
        Prod.exists] at h
      obtain ⟨_, _, hn, _, _, hf⟩ := h
      exact named_of_run? (fun _ => isTargetChar_of_isNameChar) hn (name_of_functionValue? hf)
  | bareMethod =>
      simp only [signature?, bareMethod?, Option.orElse_eq_orElse, Option.orElse_eq_or,
        Option.or_eq_some_iff, Option.bind_eq_some_iff] at h
      rcases h with ⟨_, _, hm⟩ | ⟨_, hm⟩
      · exact named_of_plainMethod? hm
      · exact named_of_plainMethod? hm

theorem star_not_mem_name {line : String} {h : Header} (hl : ofLine? line = some h) :
    '*' ∉ h.name.toList := by
  obtain ⟨kind, s, hs, rfl⟩ := ofLine?_eq_some hl
  intro hstar
  rw [String.toList_ofList] at hstar
  have := named_of_signature? hs '*' hstar
  revert this
  decide +kernel

end Header

namespace Note

open HeaderNotes.Text

variable {note : Note} {t : Template} {terminator : String}

/-- Indentation and terminator of a line of a note close no comment. -/
theorem closings_line (hi : ∀ c ∈ note.indentation.toList, isBlank c)
    (ht : ∀ c ∈ terminator.toList, isBlank c) (line : String) :
    closings (note.indentation ++ line ++ terminator).toList = closings line.toList := by
  rw [String.toList_append, String.toList_append, List.append_assoc,
    closings_append_of_no_star (star_not_mem_blanks hi),
    closings_append _ (head?_blanks_ne_slash ht), closings_of_no_star (star_not_mem_blanks ht),
    Nat.add_zero]

theorem closings_bullet (s : String) : closings (" * " ++ s).toList = closings s.toList := by
  simp [closings_cons]

theorem star_not_mem_summary (locale : Locale) {name : String} (hn : '*' ∉ name.toList) :
    '*' ∉ (locale.summary name).toList := by
  unfold Locale.summary
  split <;> simp [hn]

theorem star_not_mem_inputs (locale : Locale) : '*' ∉ (locale.inputs ++ ": ").toList := by
  cases locale <;> decide

theorem star_not_mem_outputs (locale : Locale) : '*' ∉ locale.outputs.toList := by
  cases locale <;> decide

/-- The lines of a note, but the first, start with a blank. -/
theorem head?_line (hi : ∀ c ∈ note.indentation.toList, isBlank c) {line : String}
    (hl : line.toList.head? = some ' ') (rest : List Char) :
    ((note.indentation ++ line ++ terminator).toList ++ rest).head? ≠ some '/' := by
  simp only [String.toList_append, List.append_assoc]
  cases hind : note.indentation.toList with
  | nil => simp [List.head?_append, hl]
  | cons c more =>
      simpa using ne_of_isBlank (by decide) (hi c (by simp [hind]))

theorem closings_note (hi : ∀ c ∈ note.indentation.toList, isBlank c)
    (hn : '*' ∉ note.name.toList) (ht : ∀ c ∈ terminator.toList, isBlank c) :
    closings (unlines (note.lines t terminator)).toList =
      closings (note.shownParameters t).toList + 1 := by
  let line (body : String) : List Char := (note.indentation ++ body ++ terminator).toList
  have parts : (unlines (note.lines t terminator)).toList =
      line "/**" ++ (line (" * " ++ t.locale.summary note.name) ++
        (line (" * " ++ t.locale.inputs ++ ": " ++ note.shownParameters t) ++
          (line (" * " ++ t.locale.outputs) ++ (line " */" ++ [])))) := by
    simp [line, lines, body]
  have inputs : " * " ++ t.locale.inputs ++ ": " ++ note.shownParameters t =
      " * " ++ (t.locale.inputs ++ ": " ++ note.shownParameters t) := by
    simp only [String.append_assoc]
  rw [parts, closings_append _ (head?_line hi (by simp) _),
    closings_append _ (head?_line hi (by simp) _), closings_append _ (head?_line hi (by simp) _),
    closings_append _ (head?_line hi rfl _), List.append_nil, closings_line hi ht,
    closings_line hi ht, closings_line hi ht, closings_line hi ht, closings_line hi ht, inputs,
    closings_bullet, closings_bullet, closings_bullet,
    closings_of_no_star (star_not_mem_summary _ hn), closings_of_no_star (star_not_mem_outputs _),
    String.toList_append, closings_append_of_no_star (star_not_mem_inputs _)]
  simp [closings]

theorem closings_shownParameters (note : Note) (t : Template) :
    closings (note.shownParameters t).toList =
      closings (if allBlank note.parameters then t.placeholder else note.parameters).toList := by
  simp only [shownParameters, trim_isEmpty]
  split
  · rfl
  · exact closings_trim _

/-- A note is one comment, from its first line on up to the terminator, exactly if what it shows for
the parameters closes none. In any case it ends with a closing mark, and the closing marks in what
it shows are the only others. -/
theorem one_comment_iff {line : String} {h : Header} (hl : Header.ofLine? line = some h)
    (t : Template) {terminator : String} (ht : allBlank terminator) :
    let text := (unlines ((ofHeader h).lines t terminator)).toList
    let shown := if allBlank h.parameters then t.placeholder else h.parameters
    closings text = closings shown.toList + 1 ∧
      ∃ inside, text = h.indentation.toList ++ '/' :: '*' :: (inside ++ '*' :: '/' ::
          terminator.toList) ∧
        (behindComment? (inside ++ '*' :: '/' :: terminator.toList) = some terminator.toList ↔
          closings shown.toList = 0) := by
  intro text shown
  have hi : ∀ c ∈ h.indentation.toList, isBlank c :=
    fun _ => Header.ofLine?_isBlank_indentation hl
  have hb := isBlank_of_allBlank ht
  have total : closings text = closings shown.toList + 1 := by
    have counted := @closings_note (ofHeader h) t terminator hi (Header.star_not_mem_name hl) hb
    rwa [closings_shownParameters] at counted
  let row (body : String) : List Char := (h.indentation ++ body ++ terminator).toList
  let inside := '*' :: (terminator.toList ++ row (" * " ++ t.locale.summary h.name) ++
    row (" * " ++ t.locale.inputs ++ ": " ++ (ofHeader h).shownParameters t) ++
    row (" * " ++ t.locale.outputs) ++ h.indentation.toList ++ [' '])
  have shape : text = h.indentation.toList ++ '/' :: '*' :: (inside ++ '*' :: '/' ::
      terminator.toList) := by
    simp [text, inside, row, lines, body, ofHeader]
  refine ⟨total, inside, shape, ?_⟩
  have count : closings text = closings inside + 1 := by
    rw [shape, closings_append_of_no_star (star_not_mem_blanks hi), closings_cons, closings_cons,
      closings_append inside (by simp), closings,
      closings_of_no_star (star_not_mem_blanks hb)]
    simp [inside]
  rw [behindComment?_append_iff]
  omega

theorem one_comment_iff_sample :
    Header.ofLine? "\tgo(a, b) \x7b\r\n" = some ⟨"\t", "go", "a, b", .bareMethod⟩ ∧
      closings (unlines ((ofHeader ⟨"\t", "go", "a, b", .bareMethod⟩).lines
        ⟨.arabic, some "*/"⟩ "\r\n")).toList = 1 := by
  have read : Header.ofLine? "\tgo(a, b) \x7b\r\n" = some ⟨"\t", "go", "a, b", .bareMethod⟩ := by
    decide +kernel
  have once := (one_comment_iff read ⟨.arabic, some "*/"⟩ (show allBlank "\r\n" by decide)).1
  exact ⟨read, by rw [once]; decide⟩

/-- A comment among the parameters ends the note early: its last two lines are left outside. -/
theorem parameters_close_comment :
    let header : Header := ⟨"", "f", "a /* b */", .declaration⟩
    let text := (unlines ((ofHeader header).lines {} "\n")).toList
    Header.ofLine? "function f(a /* b */) \x7b\n" = some header ∧ closings text = 2 ∧
      behindComment? (text.drop 2) = some "\n * Outputs: see implementation\n */\n".toList := by
  decide +kernel

end Note
end HeaderNotes

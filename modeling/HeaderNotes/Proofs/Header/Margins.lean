import HeaderNotes.Proofs.Header.AsyncPrefix

/-!
Blanks around a line. A header of any kind ends in its opening brace, and any blanks may follow the
brace; so blanks at the end of a line, its terminator among them, neither make a header nor unmake
one. Blanks at the front belong to the indentation, which is all the blanks that the line starts
with, and tell nothing about the rest.
-/

namespace HeaderNotes.Header

open HeaderNotes.Text

/-- The text ends in an opening brace and blanks, and has a property whatever blanks these are. -/
def BraceLast (P : List Char → Prop) (cs : List Char) : Prop :=
  ∃ front behind, Blanks behind ∧ cs = front ++ '\x7b' :: behind ∧
    ∀ more, Blanks more → P (front ++ '\x7b' :: more)

section BraceLast

variable {P Q : List Char → Prop} {cs blanks parameters : List Char}

theorem BraceLast.append_left {front : List Char} (h : BraceLast (fun cs => P (front ++ cs)) cs) :
    BraceLast P (front ++ cs) := by
  obtain ⟨inner, behind, hb, rfl, hp⟩ := h
  refine ⟨front ++ inner, behind, hb, by rw [List.append_assoc], fun more hm => ?_⟩
  rw [List.append_assoc]
  exact hp more hm

theorem BraceLast.cons {c : Char} (h : BraceLast (fun cs => P (c :: cs)) cs) :
    BraceLast P (c :: cs) :=
  @append_left _ _ [c] h

theorem BraceLast.mono (h : BraceLast P cs) (hq : ∀ cs, P cs → Q cs) : BraceLast Q cs := by
  obtain ⟨front, behind, hb, rfl, hp⟩ := h
  exact ⟨front, behind, hb, rfl, fun more hm => hq _ (hp more hm)⟩

theorem BraceLast.append_blanks (h : BraceLast P cs) (hb : Blanks blanks) : P (cs ++ blanks) := by
  obtain ⟨front, behind, hbehind, rfl, hp⟩ := h
  rw [List.append_assoc, List.cons_append]
  exact hp _ (List.forall_mem_append.mpr ⟨hbehind, hb⟩)

theorem BraceLast.of_append_blanks (h : BraceLast P (cs ++ blanks)) (hb : Blanks blanks) :
    P cs := by
  obtain ⟨front, behind, hbehind, hcut, hp⟩ := h
  have brace : '\x7b' ∉ blanks := fun hm => absurd (hb _ hm) (by decide)
  rcases List.append_eq_append_iff.mp hcut with ⟨before, _, hblanks⟩ | ⟨rest, hcs, hrest⟩
  · exact absurd (by simp [hblanks]) brace
  · cases rest with
    | nil =>
        rw [List.nil_append] at hrest
        exact absurd (by simp [← hrest]) brace
    | cons c more =>
        -- The brace stands in front of the blanks, and some of those behind it may be left.
        obtain ⟨rfl, rfl⟩ := List.cons.inj hrest
        rw [hcs]
        exact hp more (List.forall_mem_append.mp hbehind).1

theorem Brace.braceLast (h : Brace cs) : BraceLast Brace cs := by
  obtain ⟨hbefore, hbehind⟩ := h
  exact ⟨_, _, hbehind, rfl, fun _ hm => .mk hbefore hm⟩

theorem Call.braceLast (h : Call parameters cs) : BraceLast (Call parameters) cs := by
  obtain ⟨hbefore, hp, hrest⟩ := h
  refine .append_left (.cons (.append_left (.cons ?_)))
  exact hrest.braceLast.mono fun _ hrest => .mk hbefore hp hrest

theorem ArrowBody.braceLast (h : ArrowBody cs) : BraceLast ArrowBody cs := by
  obtain ⟨hbefore, hrest⟩ := h
  refine .append_left (.append_left ?_)
  exact hrest.braceLast.mono fun _ hrest => .mk hbefore hrest

theorem FunctionValue.braceLast (h : FunctionValue parameters cs) :
    BraceLast (FunctionValue parameters) cs := by
  obtain ⟨hm, hc⟩ := h
  refine .append_left (.append_left ?_)
  exact hc.braceLast.mono fun _ hc => .mk hm hc

end BraceLast

section Kinds

variable {kind : Kind} {cs blanks : List Char} {s : Signature}

theorem Form.braceLast (h : Form kind s cs) : BraceLast (Form kind s) cs := by
  induction h with
  | declaration hg hn hc =>
      refine .append_left (.append_left (.append_left ?_))
      exact hc.braceLast.mono fun _ hc => .declaration hg hn hc
  | asyncDeclaration hg _ ih =>
      refine .append_left (.append_left ?_)
      exact ih.mono fun _ hd => .asyncDeclaration hg hd
  | exported hg _ ih =>
      refine .append_left (.append_left ?_)
      exact ih.mono fun _ hd => .exported hg hd
  | exportedDefault hg hg' _ ih =>
      refine .append_left (.append_left (.append_left (.append_left ?_)))
      exact ih.mono fun _ hd => .exportedDefault hg hg' hd
  | arrow hb hm hp ha =>
      refine .append_left (.append_left (.cons (.append_left (.cons ?_))))
      exact ha.braceLast.mono fun _ ha => .arrow hb hm hp ha
  | assignedExpression hn hbefore hbehind hv =>
      refine .append_left (.append_left (.append_left (.append_left ?_)))
      exact hv.braceLast.mono fun _ hv => .assignedExpression hn hbefore hbehind hv
  | objectMethod hn hbefore hbehind hv =>
      refine .append_left (.append_left (.append_left (.append_left ?_)))
      exact hv.braceLast.mono fun _ hv => .objectMethod hn hbefore hbehind hv

theorem bareMethod?_braceLast (h : bareMethod? cs = some s) :
    BraceLast (fun cs => bareMethod? cs = some s) cs := by
  obtain ⟨lead, call, hlead, hcall, rfl⟩ := exists_methodLead h
  obtain ⟨name?, hm⟩ := exists_methodLead_iff.mp hlead
  rw [hm.bareMethod?_eq hcall] at h
  refine .append_left ?_
  exact hcall.braceLast.mono fun call hc => (hm.bareMethod?_eq hc).trans h

theorem arrowSingleParam?_braceLast (h : arrowSingleParam? cs = some s) :
    BraceLast (fun cs => arrowSingleParam? cs = some s) cs := by
  rw [arrowSingleParam?_eq, Option.bind_eq_some_iff] at h
  obtain ⟨⟨name, value⟩, hb, hread⟩ := h
  obtain ⟨binding, hbinding, rfl⟩ := exists_binding hb
  obtain ⟨-, lead, body, hlead, ha, rfl⟩ := exists_parameterLead hread
  obtain ⟨parameter, hp⟩ := exists_parameterLead_iff.mp hlead
  rw [hp.asyncFirst?_eq ha] at hread
  refine .append_left (.append_left (ha.braceLast.mono fun body ha => ?_))
  have hbound := hbinding.binding?_append (lead ++ body)
  rw [(hp.startsName.append body).skipBlanks_eq] at hbound
  rw [arrowSingleParam?_eq, hbound, Option.bind_some, hp.asyncFirst?_eq ha, hread]

/-- A header of any kind ends in its brace, and is the same whatever blanks follow the brace. -/
theorem signature?_braceLast (h : signature? kind cs = some s) :
    BraceLast (fun cs => signature? kind cs = some s) cs := by
  by_cases hk : kind ∈ [.arrowSingleParam, .bareMethod]
  · simp only [List.mem_cons, List.not_mem_nil, or_false] at hk
    rcases hk with rfl | rfl
    · exact arrowSingleParam?_braceLast h
    · exact bareMethod?_braceLast h
  · exact (form_of_signature? hk h).braceLast.mono fun _ hf => hf.signature?_eq

theorem signature?_append_blanks (kind : Kind) (cs : List Char) (hb : Blanks blanks) :
    signature? kind (cs ++ blanks) = signature? kind cs := by
  ext s
  constructor
  · intro h
    exact (signature?_braceLast h).of_append_blanks hb
  · intro h
    exact (signature?_braceLast h).append_blanks hb

theorem signature?_skipBlanks_append (kind : Kind) (cs : List Char) (hb : Blanks blanks) :
    signature? kind (skipBlanks (cs ++ blanks)) = signature? kind (skipBlanks cs) := by
  rw [skipBlanks, List.dropWhile_append]
  split
  · rename_i hempty
    -- The whole text is blank, and nothing is left of it with or without the blanks behind it.
    have hnil : skipBlanks cs = [] := List.isEmpty_iff.mp hempty
    rw [hnil, List.dropWhile_eq_nil_iff.mpr hb]
  · exact signature?_append_blanks kind (skipBlanks cs) hb

end Kinds

section Line

variable {before line behind : String}

theorem ofLineAs?_margins (kind : Kind) (hbefore : allBlank before) (hbehind : allBlank behind) :
    ofLineAs? kind (before ++ line ++ behind) =
      (ofLineAs? kind line).map fun h => { h with indentation := before ++ h.indentation } := by
  have hu := isBlank_of_allBlank hbefore
  have hv := isBlank_of_allBlank hbehind
  cases hs : signature? kind (skipBlanks line.toList) with
  | none =>
      have houter : signature? kind (skipBlanks (before ++ line ++ behind).toList) = none := by
        rw [String.toList_append, signature?_skipBlanks_append kind _ hv, String.toList_append,
          skipBlanks_append hu, hs]
      simp only [ofLineAs?, hs, houter, Option.map_none]
  | some s =>
      have hline : (before ++ line ++ behind).toList =
          (before.toList ++ leadingBlanks line.toList) ++
            (skipBlanks line.toList ++ behind.toList) := by
        rw [List.append_assoc, ← List.append_assoc (leadingBlanks _),
          leadingBlanks_append_skipBlanks]
        simp
      have hblanks : Blanks (before.toList ++ leadingBlanks line.toList) :=
        List.forall_mem_append.mpr ⟨hu, blanks_leadingBlanks _⟩
      have hstart := (signature?_startsName hs).append behind.toList
      rw [ofLineAs?_eq_map kind hblanks hstart hline, signature?_append_blanks kind _ hv]
      simp only [ofLineAs?, hs, Option.map_some, String.ofList_append, String.ofList_toList]

/-- Blanks around a line change nothing but the indentation of the header that is read: those in
front are added to it. And the indentation is all the blanks that the line starts with. -/
theorem ofLine?_margins :
    (∀ before line behind : String, allBlank before → allBlank behind →
      ofLine? (before ++ line ++ behind) =
        (ofLine? line).map fun h => { h with indentation := before ++ h.indentation }) ∧
    ∀ (line : String) (h : Header), ofLine? line = some h →
      allBlank h.indentation ∧ h.indentation.toList <+: line.toList ∧
        ∀ front : String, allBlank front → front.toList <+: line.toList →
          front.toList <+: h.indentation.toList := by
  refine ⟨fun before line behind hbefore hbehind => ?_, fun line h hl => ?_⟩
  · simp only [ofLine?, List.map_findSome?, ofLineAs?_margins _ hbefore hbehind,
      Function.comp_def]
  · obtain ⟨kind, s, _, rfl⟩ := ofLine?_eq_some hl
    simp only [String.toList_ofList]
    refine ⟨?_, List.takeWhile_prefix _, ?_⟩
    · rw [allBlank, String.toList_ofList]
      exact List.all_eq_true.mpr (blanks_leadingBlanks line.toList)
    · rintro front hfront ⟨rest, hrest⟩
      rw [← hrest, leadingBlanks, List.takeWhile_append_of_pos (isBlank_of_allBlank hfront)]
      exact List.prefix_append _ _

theorem ofLine?_margins_sample :
    ofLine? ("\u2003\r" ++ "\tasync f( a ) \x7b" ++ "\u00a0\r\n\n") =
        some ⟨"\u2003\r\t", "f", " a ", .bareMethod⟩ ∧
      ∀ front : String, allBlank front →
        front.toList <+: ("\u2003\r" ++ "\tasync f( a ) \x7b" ++ "\u00a0\r\n\n").toList →
        front.toList <+: "\u2003\r\t".toList := by
  obtain ⟨margins, longest⟩ := ofLine?_margins
  have inner : ofLine? "\tasync f( a ) \x7b" = some ⟨"\t", "f", " a ", .bareMethod⟩ := by
    decide +kernel
  have outer := margins "\u2003\r" "\tasync f( a ) \x7b" "\u00a0\r\n\n" (by decide) (by decide)
  rw [inner] at outer
  exact ⟨outer, (longest _ _ outer).2.2⟩

end Line

end HeaderNotes.Header

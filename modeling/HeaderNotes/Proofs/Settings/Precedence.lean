import HeaderNotes.Proofs.Settings.Given

/-!
Precedence of the settings: the command line before the settings file, and the file before the
defaults. The rule is another one for each kind of field. Given extensions replace the earlier ones,
given patterns are added to them, a switch can only be turned on, and an option counts if it is
given at all.
-/

namespace HeaderNotes.Settings

open Reader

def Given.locale (g : Given) : Option Locale :=
  g.note.bind GivenNote.locale

/-- The placeholder that a file gives. A null gives none. -/
def Given.placeholder (g : Given) : Option String :=
  (g.note.bind GivenNote.placeholder).join

/-- Settings that are put together from what the command line and a file give. -/
structure Layered (o : SettingsChanges) (g : Given) (s : Settings) : Prop where
  extensions :
    s.extensions = if o.extensions = [] then g.extensions.getD ["js"] else o.extensions
  ignore :
    s.ignore = g.ignore.getD ["node_modules", ".git", "build", "dist", "__pycache__"] ++ o.ignore
  includeHidden : s.includeHidden = (o.includeHidden || g.includeHidden.getD false)
  locale : s.note.locale = (o.locale <|> g.locale).getD .english
  placeholder? : s.note.placeholder? = (o.placeholder <|> g.placeholder)
  workers : s.workers = (o.workers <|> g.workers.join)
  /-- What stands for missing parameters: a placeholder of any layer goes before the locale's own,
  whichever layer the locale is from. -/
  placeholder :
    s.note.placeholder = (o.placeholder <|> g.placeholder).getD s.note.locale.placeholder

/-- The layers leave nothing open. -/
theorem Layered.unique {o : SettingsChanges} {g : Given} {s s' : Settings} (h : Layered o g s)
    (h' : Layered o g s') : s = s' := by
  obtain ⟨⟨extensions, ignore, includeHidden⟩, ⟨l, p⟩, workers⟩ := s
  obtain ⟨⟨extensions', ignore', includeHidden'⟩, ⟨l', p'⟩, workers'⟩ := s'
  obtain rfl : extensions = extensions' := h.extensions.trans h'.extensions.symm
  obtain rfl : ignore = ignore' := h.ignore.trans h'.ignore.symm
  obtain rfl : includeHidden = includeHidden' := h.includeHidden.trans h'.includeHidden.symm
  obtain rfl : l = l' := h.locale.trans h'.locale.symm
  obtain rfl : p = p' := h.placeholder?.trans h'.placeholder?.symm
  obtain rfl : workers = workers' := h.workers.trans h'.workers.symm
  rfl

theorem Given.note_settings (g : Given) :
    g.settings.note.locale = g.locale.getD .english ∧
      g.settings.note.placeholder? = g.placeholder := by
  obtain ⟨_, _, _, _ | note, _⟩ := g <;> exact ⟨rfl, rfl⟩

theorem layered_change (o : SettingsChanges) (g : Given) :
    Layered o g (g.settings.change o) where
  extensions := by simp [Settings.change, Selection.change, Given.settings, List.isEmpty_iff]
  ignore := rfl
  includeHidden := Bool.or_comm _ _
  locale := by
    rw [Settings.change, g.note_settings.1]
    cases o.locale <;> rfl
  placeholder? := by rw [Settings.change, g.note_settings.2]
  workers := rfl
  placeholder := by rw [Template.placeholder, Settings.change, g.note_settings.2]

/-- Whatever fields a settings file gives and in whatever order, loading it succeeds, and what the
command line says is layered on top field by field. Listing looks at the same files as annotating if
both are told the same about them. -/
theorem precedence {fs : FileSystem} {l : Location} {text : String} {g : Given}
    (stored : fs.read l = .ok text.toUTF8) (written : g.WrittenIn text) :
    ∃ s, fs.loadSettings l = .ok s ∧ ∀ o : SettingsChanges, Layered o g (s.change o) ∧
      ∀ c : SelectionChanges, c.extensions = o.extensions → c.ignore = o.ignore →
        c.includeHidden = o.includeHidden →
          s.toSelection.change c = (s.change o).toSelection := by
  refine ⟨g.settings, FileSystem.loadSettings_of_ofText stored written.ofText_eq, ?_⟩
  intro o
  refine ⟨layered_change o g, ?_⟩
  rintro ⟨extensions, ignore, includeHidden⟩ rfl rfl rfl
  rfl

/-- Some fields, with one of them null. -/
def Given.sample : Given where
  extensions := some ["ts", "js"]
  note := some { placeholder := some (some "😀") }
  workers := some none

/-- The fields of the sample in another order, with needless escapes and white space. -/
def Given.sampleText : String :=
  "\n\x7b\"workers\":null, \"\\u006Eote\" :\x7b\"empty_placeholder\":\"\\ud83D\\uDe00\"\x7d ,"
    ++ "\"extensions\": [\"ts\" ,\"js\" ]\x7d "

theorem Given.sample_written : Given.sample.WrittenIn Given.sampleText := by
  have space : Space [' '] := by simp [Space, isSpace]
  have note : TextForm "note" ('"' :: ("\\u006Eote".toList ++ ['"'])) := by
    have first : UnitForm ('n').toNat ['0', '0', '6', 'E'] :=
      .digits (w := 0) (x := 0) (y := 6) (z := 14) rfl rfl rfl rfl
    exact ⟨_, .cons (.unit first) (bodyForm_printed ['o', 't', 'e']), rfl⟩
  have face : TextForm "😀" ('"' :: ("\\ud83D\\uDe00".toList ++ ['"'])) := by
    have high : UnitForm 0xD83D ['d', '8', '3', 'D'] :=
      .digits (w := 13) (x := 8) (y := 3) (z := 13) rfl rfl rfl rfl
    have low : UnitForm 0xDE00 ['D', 'e', '0', '0'] :=
      .digits (w := 13) (x := 14) (y := 0) (z := 0) rfl rfl rfl rfl
    exact ⟨_, .cons (.pair high low (by decide) (by decide) rfl) .nil, rfl⟩
  have placeholder : MemberForm NoteEntry.name NoteEntry.Form (.placeholder (some "😀")) _ :=
    .member (textForm_printed _) space_nil space_nil face
  have noteObject : GivenNote.Form { placeholder := some (some "😀") } _ :=
    ⟨_, .refl _, _, .items space_nil placeholder (.done space_nil), rfl⟩
  have texts : TextsForm ["ts", "js"] _ :=
    ⟨_, .items space_nil (textForm_printed "ts")
      (.item space space_nil (textForm_printed "js") (.done space)), rfl⟩
  have member (e : Entry) {before after value : List Char} (hb : Space before) (ha : Space after)
      (hv : e.Form value) : MemberForm Entry.name Entry.Form e _ :=
    .member (textForm_printed e.name) hb ha hv
  have fields : SequenceForm (MemberForm Entry.name Entry.Form) Given.sample.entries.reverse _ :=
    .items space_nil (member (.workers none) space_nil space_nil rfl)
      (.item space_nil space (.member note space space_nil noteObject)
        (.item space space_nil (member (.extensions ["ts", "js"]) space_nil space texts)
          (.done space_nil)))
  refine ⟨['\n'], _, [' '], by simp [Space, isSpace], ⟨_, List.reverse_perm _, _, fields, rfl⟩,
    space, ?_⟩
  decide +kernel

/-- The locale is from the command line, and the placeholder from the file. -/
theorem precedence_sample :
    ∃ s, (⟨.file "c.json" Given.sampleText.toUTF8 .empty, []⟩ : FileSystem).loadSettings
        ⟨"c.json", []⟩ = .ok s ∧
      s.change { ignore := ["tmp"], includeHidden := true, locale := some .arabic } =
        { extensions := ["ts", "js"]
          ignore := ["node_modules", ".git", "build", "dist", "__pycache__", "tmp"]
          includeHidden := true
          note := ⟨.arabic, some "😀"⟩
          workers := none } := by
  have stored : (⟨.file "c.json" Given.sampleText.toUTF8 .empty, []⟩ : FileSystem).read
      ⟨"c.json", []⟩ = .ok Given.sampleText.toUTF8 :=
    FileSystem.read_eq_ok_iff.mpr ⟨["c.json"], by decide +kernel, rfl⟩
  obtain ⟨s, load, rule⟩ := precedence stored Given.sample_written
  refine ⟨s, load, ?_⟩
  exact (rule _).1.unique ⟨rfl, rfl, rfl, rfl, rfl, rfl, rfl⟩

end HeaderNotes.Settings

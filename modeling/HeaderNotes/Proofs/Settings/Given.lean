import HeaderNotes.Proofs.Files.Locating
import HeaderNotes.Proofs.Settings.Forms
import HeaderNotes.Settings.Store

/-!
Settings files that give some of the fields and leave out the others. Such a file may give its
fields in any order, on both levels, and is read as the defaults with these fields put in.
-/

namespace HeaderNotes.Settings

open Reader

section Note

/-- A field of the note settings with its value. -/
inductive NoteEntry
  | locale (l : Locale)
  | placeholder (p : Option String)

namespace NoteEntry

def name : NoteEntry → String
  | locale _ => "locale"
  | placeholder _ => "empty_placeholder"

def Form : NoteEntry → List Char → Prop
  | locale l => LocaleForm l
  | placeholder p => OptionalForm TextForm p

def give : NoteEntry → Template → Template
  | locale l, t => { t with locale := l }
  | placeholder p, t => { t with placeholder? := p }

theorem understood (e : NoteEntry) : Understood noteFields name Form give e := by
  cases e with
  | locale l => exact ⟨_, rfl, fun _ h before => reads_field (reads_locale h) _ _ before⟩
  | placeholder p =>
      exact ⟨_, rfl, fun _ h before => reads_field (reads_optionalText h) _ _ before⟩

/-- Fields of different names are put in independently of each other. -/
theorem give_give (d e : NoteEntry) (h : d.name = e.name → d = e) (t : Template) :
    e.give (d.give t) = d.give (e.give t) := by
  cases d <;> cases e <;> first | rfl | cases h rfl; rfl

end NoteEntry

/-- The note settings that a file gives. A placeholder may be given as a null. -/
structure GivenNote where
  locale : Option Locale := none
  placeholder : Option (Option String) := none

namespace GivenNote

def entries (g : GivenNote) : List NoteEntry :=
  (g.locale.map NoteEntry.locale).toList ++ (g.placeholder.map NoteEntry.placeholder).toList

/-- The ways of writing the note settings: an object with its fields in any order. -/
def Form (g : GivenNote) : List Char → Prop :=
  RecordForm NoteEntry.name NoteEntry.Form g.entries

def template (g : GivenNote) : Template where
  locale := g.locale.getD .english
  placeholder? := g.placeholder.join

theorem nodup_names (g : GivenNote) : (g.entries.map NoteEntry.name).Nodup := by
  obtain ⟨_ | _, _ | _⟩ := g <;> simp [entries, NoteEntry.name]

theorem reads {g : GivenNote} {cs : List Char} (h : g.Form cs) :
    Reads (record .noteSettings noteFields {}) cs g.template := by
  have result : g.entries.foldl (fun t e => e.give t) {} = g.template := by
    obtain ⟨_ | _, _ | _⟩ := g <;> rfl
  rw [← result]
  exact reads_recordForm h NoteEntry.understood g.nodup_names NoteEntry.give_give .noteSettings {}

end GivenNote

end Note

/-- A field of the settings with its value. -/
inductive Entry
  | extensions (items : List String)
  | ignore (items : List String)
  | includeHidden (b : Bool)
  | note (g : GivenNote)
  | workers (n : Option UInt64)

namespace Entry

def name : Entry → String
  | extensions _ => "extensions"
  | ignore _ => "ignore"
  | includeHidden _ => "include_hidden"
  | note _ => "note"
  | workers _ => "workers"

def Form : Entry → List Char → Prop
  | extensions items => TextsForm items
  | ignore items => TextsForm items
  | includeHidden b => BooleanForm b
  | note g => g.Form
  | workers n => OptionalForm CountForm n

def give : Entry → Settings → Settings
  | extensions items, s => { s with extensions := items }
  | ignore items, s => { s with ignore := items }
  | includeHidden b, s => { s with includeHidden := b }
  | note g, s => { s with note := g.template }
  | workers n, s => { s with workers := n }

theorem understood (e : Entry) : Understood settingsFields name Form give e := by
  cases e with
  | extensions items => exact ⟨_, rfl, fun _ h before => reads_field (reads_texts h) _ _ before⟩
  | ignore items => exact ⟨_, rfl, fun _ h before => reads_field (reads_texts h) _ _ before⟩
  | includeHidden b => exact ⟨_, rfl, fun _ h before => reads_field (reads_boolean h) _ _ before⟩
  | note g => exact ⟨_, rfl, fun _ h before => reads_field (GivenNote.reads h) _ _ before⟩
  | workers n =>
      exact ⟨_, rfl, fun _ h before => reads_field (reads_optionalCount h) _ _ before⟩

theorem give_give (d e : Entry) (h : d.name = e.name → d = e) (s : Settings) :
    e.give (d.give s) = d.give (e.give s) := by
  cases d <;> cases e <;> first | rfl | cases h rfl; rfl

end Entry

/-- The settings that a file gives. The workers may be given as a null. -/
structure Given where
  extensions : Option (List String) := none
  ignore : Option (List String) := none
  includeHidden : Option Bool := none
  note : Option GivenNote := none
  workers : Option (Option UInt64) := none

namespace Given

def entries (g : Given) : List Entry :=
  (g.extensions.map Entry.extensions).toList ++ (g.ignore.map Entry.ignore).toList ++
    (g.includeHidden.map Entry.includeHidden).toList ++ (g.note.map Entry.note).toList ++
    (g.workers.map Entry.workers).toList

/-- The ways of writing the settings: an object with its fields in any order. -/
def Form (g : Given) : List Char → Prop :=
  RecordForm Entry.name Entry.Form g.entries

/-- A text that holds the given settings and nothing else. -/
def WrittenIn (g : Given) (text : String) : Prop :=
  ∃ before cs after, Space before ∧ g.Form cs ∧ Space after ∧
    text.toList = before ++ (cs ++ after)

/-- The settings that result: every field as it is given, or its default. -/
def settings (g : Given) : Settings where
  extensions := g.extensions.getD ["js"]
  ignore := g.ignore.getD ["node_modules", ".git", "build", "dist", "__pycache__"]
  includeHidden := g.includeHidden.getD false
  note := (g.note.getD {}).template
  workers := g.workers.join

theorem nodup_names (g : Given) : (g.entries.map Entry.name).Nodup := by
  obtain ⟨_ | _, _ | _, _ | _, _ | _, _ | _⟩ := g <;> simp [entries, Entry.name]

theorem foldl_entries (g : Given) : g.entries.foldl (fun s e => e.give s) {} = g.settings := by
  obtain ⟨_ | _, _ | _, _ | _, _ | _, _ | _⟩ := g <;> rfl

theorem reads {g : Given} {cs : List Char} (h : g.Form cs) :
    Reads (record .settings settingsFields {}) cs g.settings := by
  rw [← g.foldl_entries]
  exact reads_recordForm h Entry.understood g.nodup_names Entry.give_give .settings {}

theorem WrittenIn.ofText_eq {g : Given} {text : String} (h : g.WrittenIn text) :
    Settings.ofText text = .ok g.settings := by
  obtain ⟨before, cs, after, hb, form, ha, htext⟩ := h
  have ends : EndsValue after := by
    rw [← List.append_nil after]
    exact endsValue_space ha nofun
  have trailing : skipSpace after = [] := by
    rw [← List.append_nil after, skipSpace_append ha]
    rfl
  simp only [Settings.ofText, htext, document, reads form before after hb ends, trailing, bind,
    Except.bind]
  rfl

end Given

end HeaderNotes.Settings

namespace HeaderNotes

theorem FileSystem.loadSettings_of_ofText {fs : FileSystem} {l : Location} {text : String}
    {s : Settings} (stored : fs.read l = .ok text.toUTF8) (h : Settings.ofText text = .ok s) :
    fs.loadSettings l = .ok s := by
  simp only [loadSettings, stored, fromUTF8?_eq_some_iff.mpr rfl, h]
  rfl

end HeaderNotes

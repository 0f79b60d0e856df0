import HeaderNotes.Proofs.Files.Writing
import HeaderNotes.Proofs.Settings.Given

/-!
Reading back written settings. What is printed for settings is one of the ways of writing them: an
object with every field but those that are not set, which keep their defaults. So settings that are
saved are the settings that are loaded, and saving these again changes nothing.
-/

namespace HeaderNotes.Settings.Reader

open Json (Value)

theorem space_newline (level : Nat) : Space (Json.newline level) := by
  intro c hc
  rcases List.mem_cons.mp hc with rfl | hc
  · rfl
  · rw [List.eq_of_mem_replicate hc]
    rfl

theorem textsForm_printed (level : Nat) (items : List String) :
    TextsForm items ((Json.texts items).chars level) := by
  have others : ∀ items : List String, ItemsForm TextForm items
      (Json.itemsChars (level + 1) (items.map .text) ++ Json.newline level) := by
    intro items
    induction items with
    | nil => exact .done (space_newline level)
    | cons item items ih =>
        simpa [Json.itemsChars, Value.chars] using
          ItemsForm.item space_nil (space_newline (level + 1)) (textForm_printed item) ih
  cases items with
  | nil => exact ⟨[], .empty space_nil, rfl⟩
  | cons item items =>
      refine ⟨_, .items (space_newline (level + 1)) (textForm_printed item) (others items), ?_⟩
      simp [Json.texts, Value.chars]

section Records

variable {ε : Type} {name : ε → String} {form : ε → List Char → Prop} {level : Nat}

/-- A field is printed for an entry: under its name, with a value that is one of its forms. -/
def Prints (name : ε → String) (form : ε → List Char → Prop) (level : Nat) (e : ε)
    (field : String × Value) : Prop :=
  field.1 = name e ∧ form e (field.2.chars level)

theorem memberForm_printed {e : ε} {field : String × Value} (h : Prints name form level e field) :
    MemberForm name form e (Json.textChars field.1 ++ ':' :: ' ' :: field.2.chars level) := by
  obtain ⟨key, value⟩ := field
  obtain ⟨rfl, written⟩ : key = name e ∧ form e (value.chars level) := h
  exact .member (textForm_printed _) space_nil (show Space [' '] by simp [Space, isSpace]) written

theorem objectForm_printed {entries : List ε} {fields : List (String × Value)}
    (h : List.Forall₂ (Prints name form (level + 1)) entries fields) :
    ObjectForm name form entries ((Value.object fields).chars level) := by
  have others : ∀ {entries fields}, List.Forall₂ (Prints name form (level + 1)) entries fields →
      ItemsForm (MemberForm name form) entries
        (Json.fieldsChars (level + 1) fields ++ Json.newline level) := by
    intro entries fields h
    induction h with
    | nil => exact .done (space_newline level)
    | cons first _ ih =>
        simpa [Json.fieldsChars] using
          ItemsForm.item space_nil (space_newline (level + 1)) (memberForm_printed first) ih
  cases h with
  | nil => exact ⟨[], .empty space_nil, rfl⟩
  | cons first more =>
      refine ⟨_, .items (space_newline (level + 1)) (memberForm_printed first) (others more), ?_⟩
      simp [Value.chars]

end Records

end HeaderNotes.Settings.Reader

namespace HeaderNotes

open Settings (GivenNote Given NoteEntry Entry)
open Settings.Reader

/-- The note settings as they are printed. -/
def Template.given (t : Template) : GivenNote where
  locale := some t.locale
  placeholder := t.placeholder?.map some

/-- Settings as they are printed. -/
def Settings.given (s : Settings) : Given where
  extensions := some s.extensions
  ignore := some s.ignore
  includeHidden := some s.includeHidden
  note := some s.note.given
  workers := s.workers.map some

theorem Template.template_given (t : Template) : t.given.template = t := by
  obtain ⟨l, _ | p⟩ := t <;> rfl

theorem Settings.settings_given (s : Settings) : s.given.settings = s := by
  obtain ⟨selection, note, _ | n⟩ := s <;>
    simp [Settings.given, Given.settings, note.template_given]

theorem Template.form_given (t : Template) (level : Nat) :
    t.given.Form (t.json.chars level) := by
  refine ⟨_, .refl _, objectForm_printed ?_⟩
  obtain ⟨l, _ | p⟩ := t
  · exact .cons ⟨rfl, .name (textForm_printed _)⟩ .nil
  · exact .cons ⟨rfl, .name (textForm_printed _)⟩ (.cons ⟨rfl, textForm_printed _⟩ .nil)

theorem Settings.form_given (s : Settings) : s.given.Form (s.json.chars 0) := by
  refine ⟨_, .refl _, objectForm_printed ?_⟩
  obtain ⟨⟨extensions, ignore, includeHidden⟩, note, workers⟩ := s
  refine .cons ⟨rfl, textsForm_printed 1 extensions⟩ (.cons ⟨rfl, textsForm_printed 1 ignore⟩
    (.cons ⟨rfl, ?_⟩ (.cons ⟨rfl, note.form_given 1⟩ ?_)))
  · cases includeHidden <;> rfl
  · cases workers with
    | none => exact .nil
    | some n => exact .cons ⟨rfl, rfl⟩ .nil

/-- The text of settings describes those settings. -/
theorem Settings.ofText_text (s : Settings) : Settings.ofText s.text = .ok s := by
  have written : s.given.WrittenIn s.text := by
    refine ⟨[], s.json.chars 0, ['\n'], space_nil, s.form_given, space_newline 0, ?_⟩
    simp [Settings.text, Json.Value.pretty]
  rw [written.ofText_eq, s.settings_given]

namespace FileSystem

variable {fs fs' : FileSystem} {s : Settings} {l : Location}

theorem saveSettings_eq_ok_iff :
    fs.saveSettings s l = .ok fs' ↔ fs.write l s.text.toUTF8 = .ok fs' := by
  rw [saveSettings]
  cases fs.write l s.text.toUTF8 <;> simp [Except.mapError]

theorem loadSettings_of_read (h : fs.read l = .ok s.text.toUTF8) : fs.loadSettings l = .ok s :=
  loadSettings_of_ofText h s.ofText_text

end FileSystem

/-- Settings of any content survive being written and read, as a text and in a file. The settings
that some text describes are thus described by their own text as well, and saving what was loaded
from it writes the same bytes again. -/
theorem Settings.round_trip (s : Settings) :
    Settings.ofText s.text = .ok s ∧
      (∀ text again, Settings.ofText text = .ok s → Settings.ofText s.text = .ok again →
        again = s ∧ again.text = s.text) ∧
      ∀ (fs fs' : FileSystem) (l : Location), fs.saveSettings s l = .ok fs' →
        fs'.read l = .ok s.text.toUTF8 ∧ fs'.loadSettings l = .ok s ∧
          ∀ again, fs'.loadSettings l = .ok again → fs'.saveSettings again l = .ok fs' := by
  refine ⟨s.ofText_text, ?_, ?_⟩
  · intro text again _ hread
    obtain rfl : s = again := Except.ok.inj (s.ofText_text.symm.trans hread)
    exact ⟨rfl, rfl⟩
  · intro fs fs' l hsave
    have hwrite := FileSystem.saveSettings_eq_ok_iff.mp hsave
    have hread := FileSystem.read_write hwrite
    have hload := FileSystem.loadSettings_of_read hread
    refine ⟨hread, hload, ?_⟩
    intro again hagain
    obtain rfl : s = again := Except.ok.inj (hload.symm.trans hagain)
    exact FileSystem.saveSettings_eq_ok_iff.mpr (FileSystem.write_write hwrite)

/-- Settings with an empty list, a text that needs every kind of escape, an empty placeholder and
the largest count. -/
def Settings.sample : Settings where
  extensions := []
  ignore := ["\"\\/\n\x00\x1f\x7fé—😀"]
  note := ⟨.arabic, some ""⟩
  workers := some 18446744073709551615

theorem Settings.round_trip_sample :
    Settings.ofText Settings.sample.text = .ok .sample ∧
      ∃ fs', (⟨.empty, []⟩ : FileSystem).saveSettings .sample ⟨"c.json", []⟩ = .ok fs' ∧
        fs'.loadSettings ⟨"c.json", []⟩ = .ok .sample := by
  have place : (⟨.empty, []⟩ : FileSystem).destination ⟨"c.json", []⟩ = .ok ["c.json"] := by
    decide +kernel
  have saved : (⟨.empty, []⟩ : FileSystem).saveSettings .sample ⟨"c.json", []⟩ =
      .ok ⟨.file "c.json" Settings.sample.text.toUTF8 .empty, []⟩ := by
    rw [FileSystem.saveSettings_eq_ok_iff, FileSystem.write, place]
    rfl
  obtain ⟨text, -, files⟩ := Settings.round_trip .sample
  exact ⟨text, _, saved, (files _ _ _ saved).2.1⟩

end HeaderNotes

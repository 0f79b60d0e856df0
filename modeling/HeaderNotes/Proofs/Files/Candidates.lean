import HeaderNotes.Files.Candidates
import HeaderNotes.Proofs.Files.Locating

/-!
The files to look at. They are listed in strictly increasing order, so no two of them are the same
file; and which files are listed depends on the names in the tree alone, not on what any of them
holds.
-/

namespace HeaderNotes

theorem mem_insertOrdered {names place : List String} {places : List (List String)} :
    place ∈ insertOrdered names places ↔ place = names ∨ place ∈ places := by
  induction places with
  | nil => simp [insertOrdered]
  | cons other rest ih =>
      simp only [insertOrdered]
      split
      · simp
      · split
        · rename_i heq
          simp [heq]
        · simp only [List.mem_cons, ih]
          grind

theorem pairwise_insertOrdered (names : List String) {places : List (List String)}
    (h : places.Pairwise (· < ·)) : (insertOrdered names places).Pairwise (· < ·) := by
  induction places with
  | nil => simp [insertOrdered]
  | cons other rest ih =>
      obtain ⟨hother, hrest⟩ := List.pairwise_cons.mp h
      simp only [insertOrdered]
      split
      · rename_i hlt
        refine List.pairwise_cons.mpr ⟨?_, h⟩
        intro place hp
        rcases List.mem_cons.mp hp with rfl | hp
        · exact hlt
        · exact List.lt_trans hlt (hother place hp)
      · rename_i hlt
        split
        · exact h
        · rename_i hne
          refine List.pairwise_cons.mpr ⟨?_, ih hrest⟩
          intro place hp
          rcases mem_insertOrdered.mp hp with rfl | hp
          · grind
          · exact hother place hp

theorem pairwise_ordered (places : List (List String)) :
    (ordered places).Pairwise (· < ·) := by
  induction places with
  | nil => exact .nil
  | cons names places ih => exact pairwise_insertOrdered names ih

namespace FileSystem

/-- No two of the files are found at the same place. -/
def Apart (fs : FileSystem) (files : List Location) : Prop :=
  files.Pairwise fun a b => ∀ place, fs.locate a = .ok place → fs.locate b ≠ .ok place

theorem apart_below (fs : FileSystem) (root : String) {places : List (List String)}
    (h : places.Pairwise (· < ·)) :
    fs.Apart (places.map fun below => ⟨root, below⟩) := by
  refine List.pairwise_map.mpr (h.imp ?_)
  intro a b hlt place ha hb
  obtain rfl := locate_below_inj ha hb
  exact List.lt_irrefl a hlt

/-- No file is listed twice, not even under two names. -/
theorem candidates_apart {fs : FileSystem} {root : String} {s : Selection}
    {files : List Location} (h : fs.candidates root s = .ok files) : fs.Apart files := by
  simp only [candidates] at h
  split at h
  · simp at h
  · split at h
    · obtain ⟨patterns, _, h⟩ := bind_eq_ok.mp h
      obtain rfl := Except.ok.inj h
      exact fs.apart_below root (pairwise_ordered _)
    · obtain rfl := Except.ok.inj h
      exact List.pairwise_singleton _ _

/-- The same names, listed in the same order. -/
structure SameNames (fs fs' : FileSystem) : Prop where
  working : fs'.working = fs.working
  skeleton : fs'.tree.skeleton = fs.tree.skeleton

theorem SameNames.refl (fs : FileSystem) : SameNames fs fs := ⟨rfl, rfl⟩

theorem SameNames.trans {fs₁ fs₂ fs₃ : FileSystem} (h : SameNames fs₁ fs₂)
    (h' : SameNames fs₂ fs₃) : SameNames fs₁ fs₃ :=
  ⟨h'.working.trans h.working, h'.skeleton.trans h.skeleton⟩

theorem SameNames.sameLayout {fs fs' : FileSystem} (h : SameNames fs fs') :
    SameLayout fs fs' := by
  refine ⟨h.working, fun q => ?_, fun q => ?_⟩
  · rw [← Directory.isFolder_skeleton, h.skeleton, Directory.isFolder_skeleton]
  · rw [← Directory.content?_skeleton, h.skeleton, Directory.content?_skeleton]

theorem wanted_congr {d d' : Directory} (h : d'.skeleton = d.skeleton) (s : Selection)
    (patterns : List Pattern) : d'.wanted s patterns = d.wanted s patterns := by
  simp only [Directory.wanted]
  rw [← Directory.filesWithin_skeleton d', h, Directory.filesWithin_skeleton]

/-- Which files are listed does not depend on what they hold. -/
theorem candidates_congr {fs fs' : FileSystem} (h : SameNames fs fs') (root : String)
    (s : Selection) : fs'.candidates root s = fs.candidates root s := by
  simp only [candidates, locate_congr h.sameLayout]
  cases fs.locate ⟨root, []⟩ with
  | error e => rfl
  | ok place =>
      have hget : (fs'.tree.get? place).map Entry.skeleton =
          (fs.tree.get? place).map Entry.skeleton := by
        rw [← Directory.get?_skeleton, h.skeleton, Directory.get?_skeleton]
      rcases hp : fs.tree.get? place with - | (content | inner) <;>
        rcases hp' : fs'.tree.get? place with - | (content' | inner') <;>
        simp [hp, hp', Entry.skeleton] at hget ⊢
      simp only [wanted_congr hget]

end FileSystem
end HeaderNotes

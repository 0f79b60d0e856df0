import Mathlib.Data.List.TakeWhile
import HeaderNotes.Proofs.Files.Candidates
import HeaderNotes.Proofs.Text.Bytes

/-!
Which files are looked at. Below a directory these are exactly the files with a wanted extension to
which no hidden and no ignored directory leads, each listed once and in the order of their names'
bytes. The patterns play a part only there: a missing starting point is an error and a file is
taken as it is, whatever the patterns.
-/

namespace HeaderNotes

namespace Directory

/-- No two entries of a directory, or of one below it, have the same name. -/
def isTidy : Directory → Bool
  | empty => true
  | file name _ rest => (rest.find? name).isNone && rest.isTidy
  | folder name inner rest => (rest.find? name).isNone && inner.isTidy && rest.isTidy

theorem content?_empty (place : List String) : empty.content? place = none := by
  cases place with
  | nil => rfl
  | cons name names => rfl

theorem content?_file (name : String) (content : ByteArray) (rest : Directory)
    (place : List String) :
    (file name content rest).content? place =
      if place.head? = some name then if place = [name] then some content else none
      else rest.content? place := by
  cases place with
  | nil => rfl
  | cons n names =>
      by_cases h : n = name
      · subst h
        simp [content?_cons, find?]
      · simp [content?_cons, find?, h, Ne.symm h]

theorem content?_folder (name : String) (inner rest : Directory) (place : List String) :
    (folder name inner rest).content? place =
      if place.head? = some name then inner.content? place.tail else rest.content? place := by
  cases place with
  | nil => rfl
  | cons n names =>
      by_cases h : n = name
      · subst h
        simp [content?_cons, find?]
      · simp [content?_cons, find?, h, Ne.symm h]

theorem content?_of_find?_eq_none {d : Directory} {name : String} (h : d.find? name = none)
    {place : List String} (hp : place.head? = some name) : d.content? place = none := by
  obtain ⟨names, rfl⟩ := List.head?_eq_some_iff.mp hp
  rw [content?_cons, h]

/-- What a subdirectory adds to the files of a walk. -/
theorem cons_mem_filesBelow (enter : String → Bool) (name n : String) (inner : Directory)
    (names : List String) :
    n :: names ∈ (if enter name then (inner.filesWithin enter).map fun (names, c) =>
        (name :: names, c) else []).map Prod.fst ↔
      n = name ∧ enter name ∧ names ∈ (inner.filesWithin enter).map Prod.fst := by
  split
  · simp only [List.map_map, List.mem_map, Function.comp_apply, List.cons.injEq]
    grind
  · simp_all

/-- The walk reaches exactly the files to which only directories lead that it enters. -/
theorem mem_filesWithin {d : Directory} (h : d.isTidy) (enter : String → Bool)
    (place : List String) :
    place ∈ (d.filesWithin enter).map Prod.fst ↔
      (d.content? place).isSome ∧ ∀ name ∈ place.dropLast, enter name := by
  induction d generalizing place with
  | empty => simp [filesWithin, content?_empty]
  | file name content rest ih =>
      simp only [isTidy, Bool.and_eq_true, Option.isNone_iff_eq_none] at h
      simp only [filesWithin, List.map_cons, List.mem_cons, ih h.2, content?_file]
      by_cases hp : place.head? = some name
      · by_cases hs : place = [name]
        · simp [hs]
        · simp [hp, hs, content?_of_find?_eq_none h.1 hp]
      · have hs : place ≠ [name] := by
          rintro rfl
          exact hp rfl
        simp [hp, hs]
  | folder name inner rest ihInner ih =>
      simp only [isTidy, Bool.and_eq_true, Option.isNone_iff_eq_none] at h
      simp only [filesWithin, List.map_append, List.mem_append, ih h.2, content?_folder]
      cases place with
      | nil => split <;> simp
      | cons n names =>
          rw [cons_mem_filesBelow, ihInner h.1.2]
          by_cases hn : n = name
          · subst hn
            -- No other entry has the name, so the place is reached through this one or not at all.
            rw [content?_of_find?_eq_none h.1.1 rfl]
            cases names with
            | nil => simp
            | cons next names => simp [List.dropLast_cons_of_ne_nil, and_left_comm]
          · simp [hn]

end Directory

section Extensions

/-- The extension is what follows the last dot, if there is something in front of it. -/
theorem extension?_eq_some_iff {name extension : String} :
    extension? name = some extension ↔
      '.' ∉ extension.toList ∧ ∃ stem ≠ "", name = stem ++ "." ++ extension := by
  simp only [extension?]
  constructor
  · intro h
    split at h
    · rename_i dot c front hrest
      obtain rfl := Option.some.inj h
      have hdot := List.head?_dropWhile_not (· != '.') name.toList.reverse
      obtain rfl : dot = '.' := by simpa [hrest] using hdot
      have hcut := List.takeWhile_append_dropWhile (p := (· != '.')) (l := name.toList.reverse)
      rw [hrest] at hcut
      refine ⟨?_, String.ofList (c :: front).reverse, by simp, ?_⟩
      · intro hmem
        simp only [String.toList_ofList, List.mem_reverse] at hmem
        simpa using List.mem_takeWhile_imp hmem
      · rw [← String.toList_inj, ← List.reverse_inj]
        simpa using hcut.symm
    · simp at h
  · rintro ⟨hext, stem, hstem, rfl⟩
    have hpos : ∀ c ∈ extension.toList.reverse, (c != '.') = true := by
      rintro c hc
      have hne : c ≠ '.' := fun hdot => hext (hdot ▸ List.mem_reverse.mp hc)
      simpa using hne
    have hreverse : (stem ++ "." ++ extension).toList.reverse =
        extension.toList.reverse ++ '.' :: stem.toList.reverse := by simp
    obtain ⟨c, front, hfront⟩ : ∃ c front, stem.toList.reverse = c :: front :=
      List.exists_cons_of_ne_nil (by simpa using hstem)
    rw [hreverse, List.dropWhile_append_of_pos hpos, List.takeWhile_append_of_pos hpos, hfront]
    simp

theorem dropWhile_dots_eq_iff {wanted extension : List Char} (h : '.' ∉ extension) :
    wanted.dropWhile (· == '.') = extension ↔ ∃ n, wanted = List.replicate n '.' ++ extension := by
  constructor
  · rintro rfl
    have hdots : wanted.takeWhile (· == '.') =
        List.replicate (wanted.takeWhile (· == '.')).length '.' :=
      List.eq_replicate_of_mem fun c hc => by simpa using List.mem_takeWhile_imp hc
    exact ⟨_, by rw [← hdots, List.takeWhile_append_dropWhile]⟩
  · rintro ⟨n, rfl⟩
    have hpos : ∀ c ∈ List.replicate n '.', (c == '.') = true := by
      intro c hc
      simpa using List.eq_of_mem_replicate hc
    rw [List.dropWhile_append_of_pos hpos]
    cases extension with
    | nil => rfl
    | cons c cs =>
        have hc : c ≠ '.' := fun hdot => h (hdot ▸ List.mem_cons_self)
        simp [hc]

theorem isWanted_iff {extensions : List String} {name : String} :
    isWanted extensions name ↔ ∃ stem extension, stem ≠ "" ∧ '.' ∉ extension.toList ∧
      name = stem ++ "." ++ extension ∧
      ∃ wanted ∈ extensions, ∃ n, wanted.toList = List.replicate n '.' ++ extension.toList := by
  constructor
  · intro h
    simp only [isWanted] at h
    split at h
    · rename_i extension he
      obtain ⟨hext, stem, hstem, hname⟩ := extension?_eq_some_iff.mp he
      obtain ⟨wanted, hw, heq⟩ := List.any_eq_true.mp h
      exact ⟨stem, extension, hstem, hext, hname, wanted, hw,
        (dropWhile_dots_eq_iff hext).mp (by simpa using heq)⟩
    · simp at h
  · rintro ⟨stem, extension, hstem, hext, hname, wanted, hw, heq⟩
    simp only [isWanted, extension?_eq_some_iff.mpr ⟨hext, stem, hstem, hname⟩]
    exact List.any_eq_true.mpr ⟨wanted, hw, by simpa using (dropWhile_dots_eq_iff hext).mpr heq⟩

end Extensions

section Patterns

/-- Whether a text is a pattern that describes a name. -/
def Pattern.Matches (text name : String) : Prop :=
  ∃ p, Pattern.ofText text = .ok p ∧ p.accepts name

theorem exists_compilePatterns {texts : List String}
    (h : ∀ text ∈ texts, (Pattern.ofText text).isOk) :
    ∃ patterns, compilePatterns texts = .ok patterns ∧
      ∀ name, (∃ p ∈ patterns, p.accepts name) ↔ ∃ text ∈ texts, Pattern.Matches text name := by
  induction texts with
  | nil => exact ⟨[], rfl, by simp⟩
  | cons text texts ih =>
      obtain ⟨htext, htexts⟩ := List.forall_mem_cons.mp h
      obtain ⟨patterns, hp, hm⟩ := ih htexts
      cases ht : Pattern.ofText text with
      | error fault => simp [ht, Except.isOk, Except.toBool] at htext
      | ok p =>
          refine ⟨p :: patterns, by simp [compilePatterns, ht, hp, bind, Except.bind], ?_⟩
          intro name
          simp [hm name, Pattern.Matches, ht]

/-- The first text that is no pattern is what is wrong with a list of them. -/
theorem compilePatterns_error {front back : List String} {text : String} {fault : Pattern.Fault}
    (hf : ∀ text ∈ front, (Pattern.ofText text).isOk) (ht : Pattern.ofText text = .error fault) :
    compilePatterns (front ++ text :: back) = .error (.badPattern text fault) := by
  induction front with
  | nil => simp [compilePatterns, ht]
  | cons first front ih =>
      obtain ⟨hfirst, hf⟩ := List.forall_mem_cons.mp hf
      cases h : Pattern.ofText first with
      | error fault => simp [h, Except.isOk, Except.toBool] at hfirst
      | ok p => simp [compilePatterns, h, ih hf, bind, Except.bind]

end Patterns

theorem mem_ordered {places : List (List String)} {place : List String} :
    place ∈ ordered places ↔ place ∈ places := by
  induction places with
  | nil => rfl
  | cons names places ih =>
      rw [ordered, List.foldr_cons, mem_insertOrdered, ← ordered, ih, List.mem_cons]

/-- A file below a directory that is looked at. The names of the directories that lead to it are
all but the last; the directory itself is not asked for its name. -/
structure Selection.Takes (s : Selection) (d : Directory) (below : List String) : Prop where
  file : (d.content? below).isSome
  extension : ∃ stem extension, stem ≠ "" ∧ '.' ∉ extension.toList ∧
    below.getLast? = some (stem ++ "." ++ extension) ∧
    ∃ wanted ∈ s.extensions, ∃ n, wanted.toList = List.replicate n '.' ++ extension.toList
  shown : s.includeHidden = false → ∀ name ∈ below.dropLast, name.toList.head? ≠ some '.'
  kept : ∀ name ∈ below.dropLast, ∀ text ∈ s.ignore, ¬ Pattern.Matches text name

section Exactness

variable {s : Selection} {d : Directory}

theorem startsWith_dot_iff (name : String) :
    name.startsWith "." ↔ name.toList.head? = some '.' := by
  rw [String.startsWith_string_iff]
  cases name.toList with
  | nil => simp
  | cons c cs => simp [List.cons_prefix_cons, eq_comm]

theorem enters_iff (includeHidden : Bool) (patterns : List Pattern) (name : String) :
    enters includeHidden patterns name ↔
      (includeHidden = false → name.toList.head? ≠ some '.') ∧
        ¬ ∃ p ∈ patterns, p.accepts name := by
  have hidden := startsWith_dot_iff name
  cases includeHidden <;> simp [enters, ← hidden]

theorem takes_iff {patterns : List Pattern}
    (h : ∀ name, (∃ p ∈ patterns, p.accepts name) ↔ ∃ text ∈ s.ignore, Pattern.Matches text name)
    (below : List String) :
    s.Takes d below ↔ ((d.content? below).isSome ∧
        ∀ name ∈ below.dropLast, enters s.includeHidden patterns name) ∧
      below.getLast?.any (isWanted s.extensions) := by
  simp only [enters_iff, h, Option.any_eq_true, isWanted_iff]
  constructor
  · rintro ⟨file, ⟨stem, extension, hstem, hext, hlast, hw⟩, shown, kept⟩
    refine ⟨⟨file, fun name hn => ⟨fun hh => shown hh name hn, ?_⟩⟩, ?_⟩
    · rintro ⟨text, ht, hm⟩
      exact kept name hn text ht hm
    · exact ⟨_, hlast, stem, extension, hstem, hext, rfl, hw⟩
  · rintro ⟨⟨file, entered⟩, name, hlast, stem, extension, hstem, hext, rfl, hw⟩
    exact {
      file
      extension := ⟨stem, extension, hstem, hext, hlast, hw⟩
      shown := fun hh name hn => (entered name hn).1 hh
      kept := fun name hn text ht hm => (entered name hn).2 ⟨text, ht, hm⟩ }

/-- The files below a directory, with patterns that compile. -/
theorem mem_wanted (tidy : d.isTidy) {patterns : List Pattern}
    (h : ∀ name, (∃ p ∈ patterns, p.accepts name) ↔ ∃ text ∈ s.ignore, Pattern.Matches text name)
    (below : List String) : below ∈ d.wanted s patterns ↔ s.Takes d below := by
  rw [takes_iff h, Directory.wanted, mem_ordered, List.mem_filter, Directory.mem_filesWithin tidy]

theorem pairwise_wanted (patterns : List Pattern) :
    (d.wanted s patterns).Pairwise fun a b => a.map Text.bytes < b.map Text.bytes := by
  refine (pairwise_ordered _).imp ?_
  intro a b hlt
  exact List.map_lt (fun _ _ => Text.bytes_lt) hlt

end Exactness

namespace FileSystem

/-- What is looked at from a starting point: nothing if it is missing, a file by itself, and in a
directory exactly the files that are selected, once each and in order, unless a pattern does not
compile. -/
theorem candidates_exact (fs : FileSystem) (root : String) (s : Selection) :
    (fs.contains ⟨root, []⟩ = false → fs.candidates root s = .error (.missingRoot root)) ∧
    (fs.isFile ⟨root, []⟩ → fs.candidates root s = .ok [⟨root, []⟩]) ∧
    ∀ place inner, fs.locate ⟨root, []⟩ = .ok place → fs.tree.get? place = some (.folder inner) →
      (∀ front text back fault, s.ignore = front ++ text :: back →
        (∀ text ∈ front, (Pattern.ofText text).isOk) → Pattern.ofText text = .error fault →
        fs.candidates root s = .error (.badPattern text fault)) ∧
      (inner.isTidy → (∀ text ∈ s.ignore, (Pattern.ofText text).isOk) →
        ∃ places : List (List String),
          fs.candidates root s = .ok (places.map fun below => ⟨root, below⟩) ∧
          (places.Pairwise fun a b => a.map Text.bytes < b.map Text.bytes) ∧
          ∀ below, below ∈ places ↔ s.Takes inner below) := by
  refine ⟨?_, ?_, ?_⟩
  · intro missing
    cases hl : fs.locate ⟨root, []⟩ with
    | error e => simp [candidates, hl]
    | ok place => simp [contains, hl, Except.isOk, Except.toBool] at missing
  · intro file
    cases hl : fs.locate ⟨root, []⟩ with
    | error e => simp [isFile, hl] at file
    | ok place =>
        simp only [isFile, hl] at file
        split at file
        · rename_i content hc
          simp [candidates, hl, hc]
        · simp at file
  · intro place inner hl hi
    simp only [candidates, hl, hi]
    refine ⟨?_, ?_⟩
    · intro front text back fault hs hf ht
      rw [hs, compilePatterns_error hf ht]
      rfl
    · intro tidy hp
      obtain ⟨patterns, hc, hm⟩ := exists_compilePatterns hp
      refine ⟨inner.wanted s patterns, ?_, pairwise_wanted patterns, mem_wanted tidy hm⟩
      rw [hc]
      rfl

/-- A directory with files of two kinds, one hidden and one ignored directory in it. -/
def nested : FileSystem where
  tree := .folder "web" (.file "b.js" .empty (.file "a.js" .empty (.file "c.md" .empty
    (.folder ".cache" (.file "d.js" .empty .empty)
      (.folder "dist" (.file "e.js" .empty .empty) .empty))))) .empty

theorem candidates_exact_nested :
    nested.candidates "lib" {} = .error (.missingRoot "lib") ∧
      nested.candidates "web/c.md" { ignore := ["["] } = .ok [⟨"web/c.md", []⟩] ∧
      nested.candidates "web" { ignore := ["*", "[", "***"] } = .error (.badPattern "[" .range) ∧
      ∃ places : List (List String),
        nested.candidates "web" {} = .ok (places.map fun below => ⟨"web", below⟩) ∧
        ["a.js"] ∈ places ∧ [".cache", "d.js"] ∉ places ∧ ["dist", "e.js"] ∉ places := by
  have found : nested.locate ⟨"web", []⟩ = .ok ["web"] := by decide +kernel
  refine ⟨(candidates_exact nested "lib" {}).1 (by decide +kernel),
    (candidates_exact nested "web/c.md" { ignore := ["["] }).2.1 (by decide +kernel),
    ((candidates_exact nested "web" { ignore := ["*", "[", "***"] }).2.2 _ _ found rfl).1
      ["*"] "[" ["***"] .range rfl (by decide) (by decide), ?_⟩
  obtain ⟨places, hc, -, hm⟩ :=
    ((candidates_exact nested "web" {}).2.2 _ _ found rfl).2 (by decide) (by decide +kernel)
  refine ⟨places, hc, (hm _).mpr ?_, ?_, ?_⟩
  · exact {
      file := by decide
      extension := ⟨"a", "js", by decide, by decide, rfl, "js", by decide, 0, rfl⟩
      shown := by simp
      kept := by simp }
  · intro hidden
    exact ((hm _).mp hidden).shown rfl ".cache" (by decide) (by decide)
  · intro ignored
    exact ((hm _).mp ignored).kept "dist" (by decide) "dist" (by decide)
      ⟨⟨"dist".toList.map .char⟩, by decide, by decide⟩

end FileSystem

end HeaderNotes

import HeaderNotes.Proofs.Batch.Treatment
import HeaderNotes.Proofs.Files.Replacing
import HeaderNotes.Proofs.Source.Stability

/-!
Reading again what was written. The lines of an annotated text are cut out of its content as they
are, so whatever is decided about them in memory is decided about the file that they were written
to. This holds for every text exactly if the placeholder of the notes has no line feed.
-/

namespace HeaderNotes

namespace Source

open HeaderNotes.Text

/-- The note of a function without parameters shows the placeholder in a line of its own. -/
theorem placeholder_mem_annotate (t : Template) :
    " * " ++ t.locale.inputs ++ ": " ++ t.placeholder ++ "\n" ∈
      (annotate t (lines "f() \x7b")).lines := by
  have cut : lines "f() \x7b" = ["f() \x7b"] := by decide
  have header : Header.ofLine? "f() \x7b" = some ⟨"", "f", "", .bareMethod⟩ := by decide +kernel
  have shown : (Note.ofHeader ⟨"", "f", "", .bareMethod⟩).shownParameters t = t.placeholder := rfl
  have found : noteFor? t [] "f() \x7b" = some (⟨"", "f", "", .bareMethod⟩,
      (Note.ofHeader ⟨"", "f", "", .bareMethod⟩).lines t "\n") := by
    simp only [noteFor?, header]
    rfl
  rw [cut, annotate, Annotated.lines, piecesFrom, found, List.flatMap_cons, Piece.lines]
  apply List.mem_append_left
  refine List.mem_map.mpr ⟨" * " ++ t.locale.inputs ++ ": " ++ t.placeholder, ?_, ?_⟩
  · rw [Note.body, shown]
    simp
  · simp [Note.ofHeader]

/-- A placeholder that breaks a line in two shows in some text. -/
theorem feed_not_mem_placeholder {t : Template}
    (h : ∀ text, lines (annotate t (lines text)).content = (annotate t (lines text)).lines) :
    '\n' ∉ t.placeholder.toList := by
  have cut := wellCut_lines (annotate t (lines "f() \x7b")).content
  rw [h] at cut
  have noFeed := cut.feed_not_mem_dropLast (placeholder_mem_annotate t)
  rw [String.toList_append, show "\n".toList = ['\n'] from rfl, List.dropLast_concat,
    String.toList_append] at noFeed
  exact fun hfeed => noFeed (List.mem_append_right _ hfeed)

end Source

namespace FileSystem

variable {fs fs' : FileSystem} {file : Location} {t : Template} {text : String}

theorem readLines_annotated (noFeed : '\n' ∉ t.placeholder.toList)
    (h : fs.writeLines file (Source.annotate t (Text.lines text)).lines = .ok fs') :
    fs'.readLines file = .ok (Source.annotate t (Text.lines text)).lines := by
  rw [(writeLines_effect h).1, ← Source.Annotated.content, Source.lines_content_annotate noFeed]

theorem sitesOf_false {lines : List String} (h : fs.readLines file = .ok lines) :
    fs.sitesOf false file = Source.sites lines := by
  simp [sitesOf, h]

end FileSystem

/-- A placeholder has no line feed exactly if the lines of every annotated text are the lines that
its content is cut into. Then a file that such lines are written to is read as these lines: the same
headers are found in it as in memory, all of them documented, and no further note is planned. -/
theorem Source.reread_annotated (t : Template) :
    ('\n' ∉ t.placeholder.toList ↔
      ∀ text, Text.lines (annotate t (Text.lines text)).content =
        (annotate t (Text.lines text)).lines) ∧
    ('\n' ∉ t.placeholder.toList → ∀ (text : String) (fs fs' : FileSystem) (file : Location),
      fs.writeLines file (annotate t (Text.lines text)).lines = .ok fs' →
        fs'.readLines file = .ok (annotate t (Text.lines text)).lines ∧
        fs'.sitesOf false file = sites (annotate t (Text.lines text)).lines ∧
        ∀ u : Template, fs'.plan u file = .leave) := by
  refine ⟨⟨fun noFeed text => lines_content_annotate noFeed text, feed_not_mem_placeholder⟩, ?_⟩
  intro noFeed text fs fs' file written
  have again := FileSystem.readLines_annotated noFeed written
  refine ⟨again, FileSystem.sitesOf_false again, fun u => ?_⟩
  rw [plan_of_lines again, if_pos (added_annotate_annotate t u _)]

/-- A header without a line ending, below a line that ends in a carriage return and a line feed. -/
def Source.unendedSample : String := "a();\r\n\tf(b\r) \x7b"

theorem Source.reread_annotated_sample :
    (annotate {} (Text.lines unendedSample)).added = 1 ∧
      Text.lines (annotate {} (Text.lines unendedSample)).content =
        (annotate {} (Text.lines unendedSample)).lines ∧
      ∃ fs', FileSystem.oneFile.writeLines ⟨"a.js", []⟩
          (annotate {} (Text.lines unendedSample)).lines = .ok fs' ∧
        fs'.readLines ⟨"a.js", []⟩ = .ok (annotate {} (Text.lines unendedSample)).lines ∧
        fs'.plan { locale := .arabic } ⟨"a.js", []⟩ = .leave := by
  have noFeed : '\n' ∉ ({} : Template).placeholder.toList := by decide
  have place : FileSystem.oneFile.locate ⟨"a.js", []⟩ = .ok ["a.js"] := by decide +kernel
  have written := FileSystem.writeLines_eq place rfl
    (annotate {} (Text.lines unendedSample)).lines
  obtain ⟨cut, file⟩ := reread_annotated {}
  obtain ⟨again, -, left⟩ := file noFeed unendedSample _ _ _ written
  exact ⟨by decide +kernel, cut.mp noFeed unendedSample, _, written, again, left _⟩

end HeaderNotes

import Uniprocessor.Proofs.Loading
import Uniprocessor.Proofs.Text.Cuts

/-!
A workload in a file is the workload of its text.

Reading a text file turns the line ends that a carriage return takes part in into line feeds,
and the reader of workloads knows many more kinds of line end. The two conventions agree on
where a line ends, in whatever mixture they come: no line of the text is changed and none is
moved (`Text.lines_foldNewlines`). So to load a file is to read the text that it holds
(`Workload.load_encoded`).
-/

namespace Uniprocessor

namespace Text

/-- Newlines that are made one kind are at the same places. -/
theorem lines_foldNewlines (l : List Char) :
    lines ((foldNewlines l).map .char) = lines (l.map .char) := by
  have newline {t : Text} : lines (.char '\n' :: t) = [] :: lines t :=
    lines_cons_of_isLineEnd (by decide) nofun
  fun_induction foldNewlines l with
  | case1 => rfl
  | case2 rest ih =>
      rw [List.map_cons, newline, ih, List.map_cons, List.map_cons, lines]
  | case3 c rest single ih =>
      rw [List.map_cons, List.map_cons]
      by_cases carriage : c = '\r'
      · subst carriage
        -- What stands behind it is no line feed, so it ends a line of its own.
        have apart : ∀ more, CodePoint.char '\r' = .char '\r' →
            rest.map CodePoint.char = .char '\n' :: more → False := by
          rintro more - begins
          obtain ⟨d, others, rfl, is, -⟩ := List.map_eq_cons_iff.mp begins
          cases is
          exact single others rfl rfl
        rw [if_pos rfl, newline, ih, lines_cons_of_isLineEnd (by decide) apart]
      · rw [if_neg carriage]
        have apart : ∀ {t : Text} (more : Text), CodePoint.char c = .char '\r' →
            t = .char '\n' :: more → False := by
          rintro _ _ ⟨⟩
          exact absurd rfl carriage
        by_cases ends : isLineEnd (.char c)
        · rw [lines_cons_of_isLineEnd ends apart, lines_cons_of_isLineEnd ends apart, ih]
        · rw [lines_cons_of_not_isLineEnd ends, lines_cons_of_not_isLineEnd ends, ih]

end Text

open FileSystem

theorem Workload.ofText_asRead (text : List Char) :
    Workload.ofText (asRead text) = Workload.ofText (text.map .char) := by
  rw [Workload.ofText, asRead, Text.lines_foldNewlines, Workload.ofText]

/-- Whatever text a file holds, to load it gives the workload of the text, or the error that
its reader gives, at the same line. -/
theorem Workload.load_encoded {fs : FileSystem} {path : String} {text : List Char}
    (holds : fs.Holds (normalPath path) text) (shown : String) :
    Workload.load fs.reader shown path =
      (Workload.ofText (text.map .char)).mapError .invalid := by
  have read (refused : String → WorkloadError) :
      fs.reader.load (normalPath path) refused = .ok (Text.foldNewlines text) :=
    load_reader_ok.mpr ⟨text, holds, rfl⟩
  rw [Workload.load, read, ← Workload.ofText_asRead]
  rfl

/-- Line ends of five kinds. -/
def mixedNewlines : List Char :=
  "process 1 \x7b\r\r\n lifespan 2 # a comment\r\x0b\n\x7d\u2028resource 0\r".toList

/-- A system with a single file, in which lines end in every way. -/
def FileSystem.mixed : FileSystem := fun path =>
  if path = "w" then .ok (Text.Utf8.encode mixedNewlines) else .error .missing

theorem Workload.load_encoded_mixed :
    Workload.load FileSystem.mixed.reader "w" "./w" =
      .error (.invalid ⟨some 7, .resourceForm⟩) := by
  have holds : FileSystem.mixed.Holds (normalPath "./w") mixedNewlines :=
    ⟨by decide +kernel, by decide +kernel⟩
  rw [Workload.load_encoded holds]
  decide +kernel

end Uniprocessor

import SpiceKit.Proofs.Finding.Mark
import SpiceKit.Proofs.Redefinition.Grammar

/-!
# The analysis line by line is local

Findings and redefinitions are lists of what a rule finds on single lines.
**`Source.judged_locally`** says what this is worth to an editor: a document made of two by a line
feed between them has the findings and redefinitions of the first, and behind them those of the
second further down by the line count of the first; and putting another text on one line
(`Source.withLine`) leaves what is reported on every other line as it was.

The line count is that of the index and not of the split text, and the line that is replaced is cut
out of the document by the index too, so that the index and the split text have to agree on the
lines (`Source.lines_withLine`). A carriage return before the line feed stays a part of its line,
and an empty document is one line.
-/

set_option autoImplicit false

namespace SpiceKit

open Text

namespace Source

/-- The document with another text on one of its lines, and itself where it has no such line. What
stands on the line is cut out by its `LineAt`. -/
def withLine (source : Source) (i : Nat) (line : List Char) : Source :=
  ofText (source.text.take (source.lineStart i) ++
    (line ++ source.text.drop (source.lineStart i + (source.lineText i).length)))

variable {source : Source} {i : Nat} {line : List Char}

theorem withLine_of_lineAt {before old after : List Char}
    (h : LineAt source.text i before old after) (line : List Char) :
    source.withLine i line = ofText (before ++ (line ++ after)) := by
  unfold withLine
  rw [lineStart_of_lineAt h, lineText_of_lineAt h, h.split, List.take_left,
    List.drop_length_add_append, List.drop_left]

/-- **Another text on a line leaves the other lines as they are.** `Source.withLine` is defined on
the text, and this says what it does to the lines. -/
theorem lines_withLine (hi : i < source.lineCount) (hline : '\n' ∉ line) :
    (source.withLine i line).lines = source.lines.set i line := by
  obtain ⟨before, old, after, hat⟩ := exists_lineAt_of_lt hi
  rw [withLine_of_lineAt hat]
  exact hat.lines_set hline

/-! ## What a rule finds -/

section

variable {α : Type} {judge : Nat → List Char → Option α} {lineOf : α → Int} {below : Nat → α → α}

theorem judged_append_break (h : LineRule judge lineOf below) (base : Nat) (a b : List Char) :
    judged judge base (a ++ '\n' :: b) =
      judged judge base a ++ (judged judge base b).map (below (ofText a).lineCount) := by
  rw [h.append_break, lineCount_eq]
  rfl

theorem judged_withLine (h : LineRule judge lineOf below) (base : Nat) (hi : i < source.lineCount)
    (hline : '\n' ∉ line) :
    (judged judge base (source.withLine i line).text).filter (fun x => lineOf x ≠ (base + i : Nat)) =
      (judged judge base source.text).filter (fun x => lineOf x ≠ (base + i : Nat)) := by
  have hlines : Text.lines (source.withLine i line).text = (Text.lines source.text).set i line :=
    lines_withLine hi hline
  unfold judged
  rw [hlines]
  exact h.filter_set base i (Text.lines source.text) line

end

/-! ## Findings and redefinitions -/

/-- **Findings and redefinitions are local.** Two documents with a line feed between them have the
findings and redefinitions of the first one, followed by those of the second one, further down by
the line count of the first. Another text without a line feed in it on one line of a document is
another line in its place, and changes no finding and no redefinition on any other line. Both follow
from results on any `LineRule` (`judged_append_break`, `judged_withLine`). -/
theorem judged_locally :
    (∀ a b : List Char, (ofText (a ++ '\n' :: b)).findings =
      (ofText a).findings ++ (ofText b).findings.map (Finding.below (ofText a).lineCount)) ∧
    (∀ (reserved : List String) (a b : List Char),
      (ofText (a ++ '\n' :: b)).redefinitions reserved =
        (ofText a).redefinitions reserved ++
          ((ofText b).redefinitions reserved).map (Redefinition.below (ofText a).lineCount)) ∧
    ∀ (source : Source) (i : Nat) (line : List Char), i < source.lineCount → '\n' ∉ line →
      (source.withLine i line).lines = source.lines.set i line ∧
      (source.withLine i line).findings.filter (fun d => d.line ≠ i) =
        source.findings.filter (fun d => d.line ≠ i) ∧
      ∀ reserved : List String,
        ((source.withLine i line).redefinitions reserved).filter (fun r => r.line ≠ (i : Int) + 1) =
          (source.redefinitions reserved).filter (fun r => r.line ≠ (i : Int) + 1) := by
  refine ⟨?_, ?_, ?_⟩
  · intro a b
    exact judged_append_break Finding.lineRule_ofLine? 0 a b
  · intro reserved a b
    exact judged_append_break (Redefinition.lineRule_ofLine? reserved) 1 a b
  · intro source i line hi hline
    refine ⟨lines_withLine hi hline, ?_, ?_⟩
    · have hfindings := judged_withLine Finding.lineRule_ofLine? 0 hi hline
      simp only [Nat.zero_add, ne_eq, Int.ofNat_inj] at hfindings
      exact hfindings
    · intro reserved
      have hredefinitions :=
        judged_withLine (Redefinition.lineRule_ofLine? reserved) 1 hi hline
      simp only [Int.natCast_add, Int.natCast_one, Int.add_comm 1] at hredefinitions
      exact hredefinitions

/-- A blank line becomes an assignment, with a carriage return of its own. The findings above and
below it stay where they are. -/
theorem judged_locally_assignment :
    1 < (ofString "x\r\n \n y").lineCount ∧ '\n' ∉ "x = 1\r".toList ∧
      ((ofString "x\r\n \n y").withLine 1 "x = 1\r".toList).findings.filter (fun d => d.line ≠ 1) =
        [⟨.missingTerminator, 0, 0, 1⟩, ⟨.missingTerminator, 2, 1, 2⟩] := by
  have hi : 1 < (ofString "x\r\n \n y").lineCount := by decide
  have hline : '\n' ∉ "x = 1\r".toList := by decide
  have hfindings : (ofString "x\r\n \n y").findings =
      [⟨.missingTerminator, 0, 0, 1⟩, ⟨.missingTerminator, 2, 1, 2⟩] := by decide
  obtain ⟨-, hkept, -⟩ := judged_locally.2.2 _ 1 _ hi hline
  refine ⟨hi, hline, ?_⟩
  rw [hkept, hfindings]
  rfl

end Source
end SpiceKit

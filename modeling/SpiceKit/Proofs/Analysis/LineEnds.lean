import SpiceKit.Analysis
import SpiceKit.Proofs.Declaration.LineEnds
import SpiceKit.Proofs.Finding.Mark
import SpiceKit.Proofs.Redefinition.Line

/-!
# The analysis of a document does not depend on its line ends

A document that is read from disk has its line ends unified, a document that an editor sends has
not. It does not matter: **a carriage return before every line feed changes no redefinition, no
finding and no place of a declaration.**

Declarations are carried over by offsets, and the offset of a place moves exactly by the carriage
returns of the lines above it (`positionAt_moved`). Redefinitions and findings are judged line by
line, and a line only gets a carriage return at its end, which trimming takes off and which the
mark of a finding leaves out (`judged_withReturns`). Here the text must have no carriage
return of its own: of two at the end of a line only one is left out.
-/

set_option autoImplicit false

namespace SpiceKit
namespace Text

/-! ## Places -/

theorem count_withReturns (cs : List Char) : (withReturns cs).count '\n' = cs.count '\n' := by
  induction cs with
  | nil => rfl
  | cons c cs ih =>
    by_cases hc : c = '\n'
    · rw [hc, withReturns_break, List.count_cons_of_ne (by decide), List.count_cons_self,
        List.count_cons_self, ih]
    · rw [withReturns_cons hc, List.count_cons_of_ne hc, List.count_cons_of_ne hc, ih]

/-- A line stays the same line, with a carriage return behind it unless it is the last. What stands
before and after it gets its carriage returns as well. `positionAt_of_lineAt` can then be applied on
both sides. -/
theorem LineAt.withReturns {text before line after : List Char} {i : Nat}
    (h : LineAt text i before line after) :
    ∃ line' after', LineAt (withReturns text) i (withReturns before) line' after' ∧
      line <+: line' := by
  have hindex : (Text.withReturns before).count '\n' = i := by rw [count_withReturns, h.index]
  have hfresh : Text.withReturns before = [] ∨ (Text.withReturns before).getLast? = some '\n' := by
    rcases h.fresh with rfl | hlast
    · exact Or.inl rfl
    · exact Or.inr (by rw [getLast?_withReturns, hlast])
  rcases h.ended with rfl | hhead
  · refine ⟨line, [], ⟨?_, hindex, hfresh, h.unbroken, Or.inl rfl⟩, List.prefix_refl _⟩
    rw [h.split, withReturns_append, List.append_nil, withReturns_of_not_mem h.unbroken]
  · obtain ⟨rest, rfl⟩ := List.head?_eq_some_iff.mp hhead
    refine ⟨line ++ ['\r'], '\n' :: Text.withReturns rest, ⟨?_, hindex, hfresh, ?_, Or.inr rfl⟩,
      List.prefix_append _ _⟩
    · rw [h.split, withReturns_append, withReturns_append, withReturns_of_not_mem h.unbroken,
        withReturns_break, List.append_assoc]
      rfl
    · simpa using h.unbroken

theorem moved_of_lineAt {text before line after : List Char} {i column : Nat}
    (h : LineAt text i before line after) (hcolumn : column ≤ line.length) :
    moved text (before.length + column) = (withReturns before).length + column := by
  have hbefore : moved text before.length = (Text.withReturns before).length := by
    rw [moved_eq_length (by simp [h.split]), h.split, List.take_left]
  have hline : moved (line ++ after) column = column := by
    have hnone : '\n' ∉ line.take column := fun hmem => h.unbroken (List.mem_of_mem_take hmem)
    rw [moved, List.take_append_of_le_length hcolumn, List.count_eq_zero_of_not_mem hnone,
      Nat.add_zero]
  rw [moved_add, hbefore, h.split, List.drop_left, hline]

end Text

open Text

/-- **The place of an offset does not depend on line ends**: the line has as many line feeds before
it as ever, and the column counts from its start. Offsets correspond by `moved`, and
`analyze_withReturns` applies this to the three offsets of a declaration. -/
theorem Source.positionAt_moved {text : List Char} {offset : Nat} (h : offset ≤ text.length) :
    (Source.ofText (withReturns text)).positionAt (moved text offset) =
      (Source.ofText text).positionAt offset := by
  obtain ⟨i, before, line, after, column, hline, rfl, hcolumn⟩ := exists_lineAt_of_le h
  obtain ⟨line', after', hline', hsub⟩ := hline.withReturns
  have hhere : (Source.ofText text).positionAt (before.length + column : Nat) = ⟨i, column⟩ :=
    Source.positionAt_of_lineAt hline hcolumn
  have hthere : (Source.ofText (withReturns text)).positionAt
      ((withReturns before).length + column : Nat) = ⟨i, column⟩ :=
    Source.positionAt_of_lineAt hline' (hcolumn.trans hsub.length_le)
  rw [moved_of_lineAt hline hcolumn, hhere, hthere]

/-! ## Lines -/

namespace Text

/-- What is judged line by line, blind to a carriage return at the end of a line, is the same with
either line ends. The two rules that are judged so are those of findings and redefinitions. -/
theorem judged_withReturns {α : Type} {judge : Nat → List Char → Option α}
    (hjudge : ∀ n l, '\r' ∉ l → judge n (l ++ ['\r']) = judge n l) {text : List Char}
    (h : '\r' ∉ text) (base : Nat) :
    judged judge base (withReturns text) = judged judge base text := by
  unfold judged
  induction text using by_lines generalizing base with
  | last l hl => rw [withReturns_of_not_mem hl]
  | line l rest hl ih =>
    have hreturn : '\r' ∉ l := fun hmem => h (by simp [hmem])
    have hrest : '\r' ∉ rest := fun hmem => h (by simp [hmem])
    have hline : withReturns (l ++ '\n' :: rest) = (l ++ ['\r']) ++ '\n' :: withReturns rest := by
      rw [withReturns_append, withReturns_of_not_mem hl, withReturns_break, List.append_assoc]
      rfl
    rw [hline, lines_append_break (by simpa using hl), lines_append_break hl, judgedLines_cons,
      judgedLines_cons, hjudge base l hreturn, ih hrest]

end Text

namespace Source

theorem redefinitions_withReturns {text : List Char} (h : '\r' ∉ text) (reserved : List String) :
    (ofText (withReturns text)).redefinitions reserved = (ofText text).redefinitions reserved := by
  rw [redefinitions_eq, redefinitions_eq]
  apply judged_withReturns _ h
  intro n l _
  simp only [Redefinition.ofLine?, trim_append_blank (show isBlank '\r' = true by decide)]

theorem findings_withReturns {text : List Char} (h : '\r' ∉ text) :
    (ofText (withReturns text)).findings = (ofText text).findings := by
  rw [findings_eq, findings_eq]
  apply judged_withReturns _ h
  intro n l hl
  have hdropped : Finding.dropReturn (l ++ ['\r']) = l := by
    rw [Finding.dropReturn, if_pos List.getLast?_concat, List.dropLast_concat]
  have hkept : Finding.dropReturn l = l := by
    rw [Finding.dropReturn, if_neg fun hlast => hl (List.mem_of_getLast? hlast)]
  have hjudged : Finding.isTerminated (l ++ ['\r']) = Finding.isTerminated l := by
    rw [Finding.isTerminated, trim_append_blank (by decide), Finding.isTerminated]
  simp only [Finding.ofLine?, hdropped, hkept, hjudged]

/-! ## The analysis -/

/-- **The analysis of a document does not depend on its line ends.** A text without carriage returns
and the same text with one before every line feed have the same redefinitions and the same findings;
and their declarations correspond one to one and in order, with the same name and kind and, each in
its own document, with the same places of start, name and end. The three parts come from
`redefinitions_withReturns`, `findings_withReturns` and `declarations_withReturns`. -/
theorem analyze_withReturns (text : List Char) (h : '\r' ∉ text) :
    (ofText (withReturns text)).analyze.redefinitions = (ofText text).analyze.redefinitions ∧
    (ofText (withReturns text)).analyze.findings = (ofText text).analyze.findings ∧
    List.Forall₂ (fun d d' : Declaration => d'.name = d.name ∧ d'.kind = d.kind ∧
        (ofText (withReturns text)).positionAt d'.start = (ofText text).positionAt d.start ∧
        (ofText (withReturns text)).positionAt d'.nameStart = (ofText text).positionAt d.nameStart ∧
        (ofText (withReturns text)).positionAt d'.stop = (ofText text).positionAt d.stop)
      (ofText text).analyze.declarations (ofText (withReturns text)).analyze.declarations := by
  refine ⟨redefinitions_withReturns h _, findings_withReturns h, ?_⟩
  simp only [analyze]
  rw [declarations_withReturns, List.forall₂_map_right_iff, List.forall₂_same]
  intro d hd
  have hname := start_lt_nameStart hd
  have hstop := name_le_stop hd
  have hend : d.stop ≤ text.length := stop_le_endOffset hd
  exact ⟨rfl, rfl, positionAt_moved (by omega), positionAt_moved (by omega),
    positionAt_moved (by omega)⟩

set_option maxRecDepth 8000 in
/-- A class whose header runs over a line end: with a carriage return there, its name still starts
the second line. -/
theorem analyze_withReturns_class :
    '\r' ∉ "class\nA".toList ∧ withReturns "class\nA".toList = "class\r\nA".toList ∧
      ∃ d ∈ (ofText (withReturns "class\nA".toList)).analyze.declarations, d.name = "A" ∧
        (ofText (withReturns "class\nA".toList)).positionAt d.nameStart = ⟨1, 0⟩ := by
  have hnone : '\r' ∉ "class\nA".toList := by decide
  have hlist : (ofText "class\nA".toList).declarations = [⟨.cls, "A", 0, 6, 7⟩] := by cbv
  have hplace : (ofText "class\nA".toList).positionAt 6 = ⟨1, 0⟩ := by cbv
  obtain ⟨-, -, hdeclarations⟩ := analyze_withReturns _ hnone
  rw [show (ofText "class\nA".toList).analyze.declarations = _ from hlist,
    List.forall₂_cons_left_iff] at hdeclarations
  obtain ⟨d, rest, ⟨hname, -, -, hnameStart, -⟩, -, hcons⟩ := hdeclarations
  refine ⟨hnone, by decide, d, ?_, hname, hnameStart.trans hplace⟩
  rw [hcons]
  exact List.mem_cons_self

end Source
end SpiceKit

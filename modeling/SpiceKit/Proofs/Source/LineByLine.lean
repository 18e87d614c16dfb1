import SpiceKit.Proofs.Source.Lines

/-!
# What is judged line by line

Findings and redefinitions come about in one way: a rule is shown the lines of a text one after
another, each with its number, and what it finds on them is listed (`Text.judged`). What is known of
such a list does not depend on the rule, as long as the rule makes no other use of the number than
to write it into what it finds (`Text.LineRule`):

* the list is in strict order of line, so that no line is reported twice (`LineRule.pairwise`);
* two texts with a line feed between them are judged one after the other (`LineRule.append_break`);
* **another text on one line changes nothing on the other lines** (`LineRule.filter_set`).
-/

set_option autoImplicit false

namespace SpiceKit
namespace Text

variable {α : Type} {judge : Nat → List Char → Option α}

/-- What a rule finds on lines that count from a given number. The number is generalised so that an
induction over the lines goes through (`judgedLines_append`). -/
def judgedLines (judge : Nat → List Char → Option α) (base : Nat) (ls : List (List Char)) : List α :=
  (ls.zipIdx base).filterMap fun (line, number) => judge number line

/-- What a rule finds in a text that it is shown line by line. Both `Source.findings` and
`Source.redefinitions` are of this form, and what is proved of `judged` holds of both. -/
def judged (judge : Nat → List Char → Option α) (base : Nat) (text : List Char) : List α :=
  judgedLines judge base (lines text)

theorem judgedLines_cons (base : Nat) (line : List Char) (ls : List (List Char)) :
    judgedLines judge base (line :: ls) =
      (judge base line).toList ++ judgedLines judge (base + 1) ls := by
  unfold judgedLines
  rw [List.zipIdx_cons]
  cases hjudge : judge base line with
  | none => simp [hjudge]
  | some x => simp [hjudge]

theorem judgedLines_append (base : Nat) (ls ls' : List (List Char)) :
    judgedLines judge base (ls ++ ls') =
      judgedLines judge base ls ++ judgedLines judge (base + ls.length) ls' := by
  unfold judgedLines
  rw [List.zipIdx_append, List.filterMap_append]

/-- The number of a line goes into what is found on it, as its line, and nowhere else. This is all
that the results of this module ask of a rule; each of the two rules of the library is proved to be
one. `judged` is what such a rule finds in a text. -/
structure LineRule (judge : Nat → List Char → Option α) (lineOf : α → Int)
    (below : Nat → α → α) : Prop where
  line_eq : ∀ {number : Nat} {line : List Char} {x : α},
    judge number line = some x → lineOf x = number
  judge_add : ∀ (number count : Nat) (line : List Char),
    judge (number + count) line = (judge number line).map (below count)

theorem mem_judged_iff {base : Nat} {text : List Char} {x : α} :
    x ∈ judged judge base text ↔
      ∃ i line, (lines text)[i]? = some line ∧ judge (base + i) line = some x := by
  unfold judged judgedLines
  rw [List.mem_filterMap]
  constructor
  · intro h
    obtain ⟨⟨line, number⟩, hmem, hjudge⟩ := h
    obtain ⟨hle, hline⟩ := List.mk_mem_zipIdx_iff_le_and_getElem?_sub.mp hmem
    refine ⟨number - base, line, hline, ?_⟩
    rwa [Nat.add_sub_cancel' hle]
  · intro h
    obtain ⟨i, line, hline, hjudge⟩ := h
    refine ⟨(line, base + i), ?_, hjudge⟩
    apply List.mk_mem_zipIdx_iff_le_and_getElem?_sub.mpr
    exact ⟨Nat.le_add_right base i, by rwa [Nat.add_sub_cancel_left]⟩

theorem mem_judged_iff_lineAt {base : Nat} {text : List Char} {x : α} :
    x ∈ judged judge base text ↔
      ∃ i before line after, LineAt text i before line after ∧ judge (base + i) line = some x := by
  rw [mem_judged_iff]
  constructor
  · intro h
    obtain ⟨i, line, hline, hjudge⟩ := h
    obtain ⟨before, after, hat⟩ := exists_lineAt_of_getElem?_lines hline
    exact ⟨i, before, line, after, hat, hjudge⟩
  · intro h
    obtain ⟨i, before, line, after, hat, hjudge⟩ := h
    exact ⟨i, line, hat.getElem?_lines, hjudge⟩

/-! ## Lines of two texts -/

/-- **A line feed between two texts adds no line and takes none away.** The induction is `by_lines`,
on the first text. -/
theorem lines_append_lines (a b : List Char) : lines (a ++ '\n' :: b) = lines a ++ lines b := by
  induction a using by_lines with
  | last l hl =>
    rw [lines_append_break hl, lines_of_not_mem hl]
    rfl
  | line l rest hl ih =>
    rw [List.append_assoc, List.cons_append, lines_append_break hl, lines_append_break hl, ih]
    rfl

theorem LineAt.exists_lines {text before line after : List Char} {i : Nat}
    (h : LineAt text i before line after) :
    ∃ front back : List (List Char), front.length = i ∧
      ∀ l, '\n' ∉ l → lines (before ++ (l ++ after)) = front ++ l :: back := by
  have hback : ∃ back, ∀ l, '\n' ∉ l → lines (l ++ after) = l :: back := by
    rcases h.ended with rfl | hhead
    · refine ⟨[], ?_⟩
      intro l hl
      rw [List.append_nil, lines_of_not_mem hl]
    · obtain ⟨rest, rfl⟩ := List.head?_eq_some_iff.mp hhead
      exact ⟨lines rest, fun l hl => lines_append_break hl rest⟩
  obtain ⟨back, hback⟩ := hback
  rcases h.fresh with rfl | hlast
  · exact ⟨[], back, h.index, hback⟩
  · obtain ⟨init, rfl⟩ := List.getLast?_eq_some_iff.mp hlast
    refine ⟨lines init, back, ?_, ?_⟩
    · rw [length_lines, ← h.index, List.count_append, List.count_singleton_self]
    · intro l hl
      rw [List.append_assoc, List.singleton_append, lines_append_lines, hback l hl]

theorem LineAt.lines_set {text before line after l : List Char} {i : Nat}
    (h : LineAt text i before line after) (hl : '\n' ∉ l) :
    lines (before ++ (l ++ after)) = (lines text).set i l := by
  obtain ⟨front, back, hlength, hlines⟩ := h.exists_lines
  rw [hlines l hl, h.split, hlines line h.unbroken, List.set_append_right i l hlength.le, hlength,
    Nat.sub_self, List.set_cons_zero]

/-! ## Rules -/

namespace LineRule

variable {lineOf : α → Int} {below : Nat → α → α}

/-- **What is found comes in strict order of line**, since a `LineRule` finds one thing on a line at
most and finds it on that line. -/
theorem pairwise (h : LineRule judge lineOf below) (base : Nat) (text : List Char) :
    (judged judge base text).Pairwise fun x y => lineOf x < lineOf y := by
  have hnumbers : ((lines text).zipIdx base).Pairwise fun p q => p.2 < q.2 := by
    apply List.pairwise_map.mp
    rw [List.zipIdx_map_snd]
    exact List.pairwise_lt_range'
  apply hnumbers.filterMap
  intro p q hlt x hx y hy
  rw [h.line_eq hx, h.line_eq hy]
  exact Int.ofNat_lt.mpr hlt

theorem judgedLines_add (h : LineRule judge lineOf below) (base count : Nat)
    (ls : List (List Char)) :
    judgedLines judge (base + count) ls = (judgedLines judge base ls).map (below count) := by
  induction ls generalizing base with
  | nil => rfl
  | cons line ls ih =>
    rw [judgedLines_cons, judgedLines_cons, h.judge_add, Nat.add_right_comm, ih, List.map_append,
      Option.toList_map]

/-- **Two texts with a line feed between them are judged one after the other**, the lines of the
second counted on from those of the first. `judgedLines` counts lines from any base, which is what
the second text needs. -/
theorem append_break (h : LineRule judge lineOf below) (base : Nat) (a b : List Char) :
    judged judge base (a ++ '\n' :: b) =
      judged judge base a ++ (judged judge base b).map (below (a.count '\n' + 1)) := by
  unfold judged
  rw [lines_append_lines, judgedLines_append, h.judgedLines_add, length_lines]

theorem filter_toList (h : LineRule judge lineOf below) (number : Nat) (line : List Char) :
    (judge number line).toList.filter (fun x => lineOf x ≠ number) = [] := by
  apply List.filter_eq_nil_iff.mpr
  intro x hx
  simp [h.line_eq (Option.mem_toList.mp hx)]

/-- **What is found on the other lines does not depend on one line.** The list of lines is cut at
that one, and the two other parts are judged as they were. `judged_withLine` is the same on a
document. -/
theorem filter_set (h : LineRule judge lineOf below) (base i : Nat) (ls : List (List Char))
    (l : List Char) :
    (judgedLines judge base (ls.set i l)).filter (fun x => lineOf x ≠ (base + i : Nat)) =
      (judgedLines judge base ls).filter (fun x => lineOf x ≠ (base + i : Nat)) := by
  induction ls generalizing base i with
  | nil => rfl
  | cons line ls ih =>
    cases i with
    | zero =>
      rw [List.set_cons_zero, judgedLines_cons, judgedLines_cons, List.filter_append,
        List.filter_append]
      simp only [Nat.add_zero]
      rw [h.filter_toList, h.filter_toList]
    | succ i =>
      rw [List.set_cons_succ, judgedLines_cons, judgedLines_cons, List.filter_append,
        List.filter_append]
      have hnext := ih (base + 1) i
      rw [Nat.add_right_comm] at hnext
      rw [Nat.add_succ, hnext]

end LineRule
end Text
end SpiceKit

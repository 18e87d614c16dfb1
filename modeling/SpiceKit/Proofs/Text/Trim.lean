import Mathlib.Data.List.DropRight
import SpiceKit.Proofs.Text.Piece

/-!
# What trimming takes off

Lines are judged trimmed, and offsets count in the document. The lemmas here go from one to the
other: a text is its trimmed text between two runs of blanks (`exists_trim_split`); where the first
character that is not blank is known, along with one further on that is not blank either, trimming
takes nothing off in between (`trim_append`); and what a trimmed text ends with is the last
character of the text that is not blank (`getLast?_trim_eq_some_iff`). `Trimmed` says what is left
of a text without naming the function.
-/

set_option autoImplicit false

namespace SpiceKit
namespace Text

theorem trimEnd_eq_rdropWhile (cs : List Char) : trimEnd cs = cs.rdropWhile isBlank := rfl

/-- **A text is its trimmed text between two runs of blanks.** What is said of a trimmed line in the
grammar of lines (`functionName?_trim_eq_some_iff`) is by this said of the line itself. -/
theorem exists_trim_split (cs : List Char) :
    ∃ left ∈ blanks, ∃ right ∈ blanks, cs = left ++ (trim cs ++ right) := by
  have hright : cs.dropWhile isBlank = trim cs ++ (cs.dropWhile isBlank).rtakeWhile isBlank :=
    List.rdropWhile_append_rtakeWhile.symm
  refine ⟨cs.takeWhile isBlank, fun c hc => List.mem_takeWhile_imp hc,
    (cs.dropWhile isBlank).rtakeWhile isBlank, fun c hc => List.mem_rtakeWhile_imp hc, ?_⟩
  rw [← hright, List.takeWhile_append_dropWhile]

theorem trimEnd_append_cons {c : Char} (hc : isBlank c = false) (front rest : List Char) :
    trimEnd (front ++ c :: rest) = front ++ c :: trimEnd rest := by
  induction rest using List.reverseRecOn with
  | nil =>
    rw [trimEnd_eq_rdropWhile, List.rdropWhile_concat_neg _ _ _ (by simp [hc])]
    rfl
  | append_singleton rest last ih =>
    rw [trimEnd_eq_rdropWhile, ← List.cons_append, ← List.append_assoc, List.rdropWhile_concat,
      trimEnd_eq_rdropWhile, List.rdropWhile_concat]
    split
    · exact ih
    · simp

/-- **Between two characters that are not blank nothing is trimmed.** `Stops` says that the first of
the two is not blank. -/
theorem trim_append {left front rest : List Char} {c : Char} (hleft : left ∈ blanks)
    (hfront : Stops isBlank (front ++ c :: rest)) (hc : isBlank c = false) :
    trim (left ++ (front ++ c :: rest)) = front ++ c :: trimEnd rest := by
  rw [trim, (span_eq hleft hfront).2, trimEnd_append_cons hc]

theorem trim_append_blank {c : Char} (hc : isBlank c = true) (cs : List Char) :
    trim (cs ++ [c]) = trim cs := by
  have hend : ∀ xs, trimEnd (xs ++ [c]) = trimEnd xs := by
    intro xs
    rw [trimEnd_eq_rdropWhile, List.rdropWhile_concat_pos _ _ _ hc, ← trimEnd_eq_rdropWhile]
  rw [trim, trim, List.dropWhile_append]
  split
  · rename_i hempty
    rw [List.isEmpty_iff.mp hempty, List.dropWhile_cons_of_pos hc]
    rfl
  · exact hend _

theorem trimEnd_of_mem_blanks {cs : List Char} (h : cs ∈ blanks) : trimEnd cs = [] := by
  rw [trimEnd_eq_rdropWhile, List.rdropWhile_eq_nil_iff]
  exact h

/-- **A trimmed text ends with the last character that is not blank.** Findings look at a line in
just this way (`isTerminated_eq_false_iff`). -/
theorem getLast?_trim_eq_some_iff {cs : List Char} {c : Char} :
    (trim cs).getLast? = some c ↔
      ∃ front back, cs = front ++ c :: back ∧ isBlank c = false ∧ back ∈ blanks := by
  constructor
  · intro h
    obtain ⟨init, hinit⟩ := List.getLast?_eq_some_iff.mp h
    obtain ⟨left, -, right, hright, hsplit⟩ := exists_trim_split cs
    refine ⟨left ++ init, right, ?_, ?_, hright⟩
    · rw [hsplit, hinit]
      simp
    · -- What trimming the end leaves does not end with a blank.
      rw [trim, trimEnd_eq_rdropWhile] at h
      have hne : (cs.dropWhile isBlank).rdropWhile isBlank ≠ [] := by
        intro hnil
        rw [hnil] at h
        cases h
      have hlast := List.rdropWhile_last_not isBlank (cs.dropWhile isBlank) hne
      rw [List.getLast?_eq_some_getLast hne, Option.some.injEq] at h
      rw [h] at hlast
      simpa using hlast
  · intro h
    obtain ⟨front, back, rfl, hc, hback⟩ := h
    have hdrop : (front ++ c :: back).dropWhile isBlank =
        front.dropWhile isBlank ++ c :: back := by
      rw [List.dropWhile_append]
      split
      · rename_i hempty
        rw [List.isEmpty_iff.mp hempty]
        simp [hc]
      · rfl
    rw [trim, hdrop, trimEnd_append_cons hc, trimEnd_of_mem_blanks hback]
    exact List.getLast?_concat

theorem trim_eq_nil_iff {cs : List Char} : trim cs = [] ↔ cs ∈ blanks := by
  constructor
  · intro h c hc
    obtain ⟨left, hleft, right, hright, hsplit⟩ := exists_trim_split cs
    rw [hsplit, h, List.nil_append, List.mem_append] at hc
    exact hc.elim (hleft c) (hright c)
  · intro h
    rw [trim, List.dropWhile_eq_nil_iff.mpr h]
    rfl

/-- A text without the blanks at its ends: it is empty, or neither its first nor its last character
is blank. By `trimmed_trim` trimming makes one, and what a tool is reported to have said is one. -/
structure Trimmed (cs core : List Char) : Prop where
  split : ∃ left ∈ blanks, ∃ right ∈ blanks, cs = left ++ (core ++ right)
  first : Stops isBlank core
  last : ∀ c ∈ core.getLast?, isBlank c = false

theorem trimmed_trim (cs : List Char) : Trimmed cs (trim cs) where
  split := exists_trim_split cs
  first := by
    intro c hc
    -- Trimming the end of a text leaves its first character, if it leaves any.
    obtain ⟨rest, hrest⟩ : trim cs <+: cs.dropWhile isBlank := List.rdropWhile_prefix _ _
    apply stops_dropWhile isBlank cs c
    rw [← hrest, List.head?_append, Option.mem_def.mp hc]
    rfl
  last := by
    intro c hc
    obtain ⟨-, -, -, hblank, -⟩ := getLast?_trim_eq_some_iff.mp hc
    exact hblank

end Text
end SpiceKit

import Mathlib
import SpiceKit.Proofs.Source.Lines

/-!
# Offsets and places are two names for one thing

Places are ordered as they are read: by line, and within a line by column. In that order
`positionAt` and `offsetAt` are inverse to each other on what the document has, and outside it both
go to the nearest end.

What carries it is that a later line lies behind an earlier one as a whole (`Text.LineAt.apart`): of
two offsets the smaller one is on an earlier line, or on the same line at a smaller column
(`Source.strictMonoOn_positionAt`), and of two places the earlier one has the smaller offset
(`Source.monotone_offsetAt`). A place that the document does not have is taken to its `nearest` one,
line before column. **`Source.places_inverse_offsets`** puts these together.
-/

set_option autoImplicit false

namespace SpiceKit

/-! ## The order of places -/

def Position.key (place : Position) : Int ×ₗ Int := toLex (place.line, place.column)

theorem Position.key_injective : Function.Injective Position.key := by
  intro p q h
  obtain ⟨hline, hcolumn⟩ := Prod.mk.inj (toLex_inj.mp h)
  cases p
  cases q
  simp only at hline hcolumn
  rw [hline, hcolumn]

instance Position.linearOrder : LinearOrder Position :=
  LinearOrder.lift' Position.key Position.key_injective

theorem Position.lt_iff {p q : Position} :
    p < q ↔ p.line < q.line ∨ p.line = q.line ∧ p.column < q.column :=
  Prod.Lex.toLex_lt_toLex

theorem Position.le_iff {p q : Position} :
    p ≤ q ↔ p.line < q.line ∨ p.line = q.line ∧ p.column ≤ q.column :=
  Prod.Lex.toLex_le_toLex

/-! ## Lines lie one behind the other -/

namespace Text

/-- **A later line starts behind the end of an earlier one.** Offsets on the two are compared by
this alone, whichever columns they have. `positionAt_lt` and `monotone_offsetAt` have this case in
common. -/
theorem LineAt.apart {text before line after before' line' after' : List Char} {i j : Nat}
    (h : LineAt text i before line after) (h' : LineAt text j before' line' after') (hlt : i < j) :
    before.length + line.length < before'.length := by
  by_contra hge
  have hearly : before ++ line <+: text := ⟨after, by rw [h.split, List.append_assoc]⟩
  have hlate : before' <+: text := ⟨line' ++ after', h'.split.symm⟩
  -- Otherwise what stands before the later line is part of the earlier one and what is before it, and
  -- holds no more line feeds.
  have hpart : before' <+: before ++ line := by
    apply List.prefix_of_prefix_length_le hlate hearly
    rw [List.length_append]
    omega
  have hcount := hpart.sublist.count_le '\n'
  rw [List.count_append, h.index, h'.index, List.count_eq_zero_of_not_mem h.unbroken] at hcount
  omega

end Text

namespace Source

open Text

variable {source : Source}

/-! ## From offsets to places -/

theorem clamp_le (source : Source) (offset : Int) : source.clamp offset ≤ source.endOffset :=
  Nat.min_le_right _ _

/-- The nearest offset is the offset itself, cut to the document at both ends. The two cuts are a
`min` and a `max`. -/
theorem clamp_eq (source : Source) (offset : Int) :
    (source.clamp offset : Int) = min (max offset 0) source.endOffset := by
  unfold clamp
  omega

theorem positionAt_clamp (source : Source) (offset : Int) :
    source.positionAt (source.clamp offset) = source.positionAt offset := by
  unfold positionAt
  rw [clamp_eq_self (source.clamp_le offset)]

theorem positionAt_lt {a b : Nat} (hlt : a < b) (hb : b ≤ source.endOffset) :
    source.positionAt a < source.positionAt b := by
  obtain ⟨i, before, line, after, column, hline, rfl, hcolumn⟩ :=
    exists_lineAt_of_le (Nat.le_trans hlt.le hb)
  obtain ⟨j, before', line', after', column', hline', rfl, hcolumn'⟩ := exists_lineAt_of_le hb
  rw [positionAt_of_lineAt hline hcolumn, positionAt_of_lineAt hline' hcolumn', Position.lt_iff]
  rcases Nat.lt_trichotomy i j with hij | rfl | hji
  · exact Or.inl (Int.ofNat_lt.mpr hij)
  · have hsame : before.length = before'.length := by
      rw [← lineStart_of_lineAt hline, lineStart_of_lineAt hline']
    exact Or.inr ⟨rfl, Int.ofNat_lt.mpr (by omega)⟩
  · have := hline'.apart hline hji
    omega

/-- **Places strictly increase along the document.** Places are compared by line, then by column. -/
theorem strictMonoOn_positionAt (source : Source) :
    StrictMonoOn source.positionAt (Set.Icc 0 source.endOffset) := by
  intro a ha b hb hlt
  obtain ⟨a, rfl⟩ := Int.eq_ofNat_of_zero_le ha.1
  obtain ⟨b, rfl⟩ := Int.eq_ofNat_of_zero_le hb.1
  exact positionAt_lt (Int.ofNat_lt.mp hlt) (Int.ofNat_le.mp hb.2)

/-! ## From places to offsets -/

theorem offsetAt_of_neg {place : Position} (h : place.line < 0) : source.offsetAt place = 0 := by
  rw [offsetAt, if_pos h]

theorem offsetAt_of_ge {place : Position} (h : source.lineCount ≤ place.line) :
    source.offsetAt place = source.endOffset := by
  rw [offsetAt, if_neg (by omega), if_pos h]

theorem offsetAt_cut {i : Nat} {before line after : List Char}
    (h : LineAt source.text i before line after) (column : Int) :
    source.offsetAt ⟨i, column⟩ = before.length + min column.toNat line.length := by
  have hcount := lineCount_of_lineAt h
  rw [offsetAt, if_neg (by simp only; omega), if_neg (by simp only; omega), lineText_of_lineAt h,
    Int.toNat_natCast, lineStart_of_lineAt h]

/-- A place is before the document, behind it, or in one of its lines. Every statement on `offsetAt`
for all integers is split into these three cases. -/
theorem place_cases (source : Source) (place : Position) :
    place.line < 0 ∨ (source.lineCount : Int) ≤ place.line ∨
      ∃ (i : Nat) (before line after : List Char),
        place.line = i ∧ LineAt source.text i before line after := by
  by_cases hneg : place.line < 0
  · exact Or.inl hneg
  · by_cases hcount : (source.lineCount : Int) ≤ place.line
    · exact Or.inr (Or.inl hcount)
    · refine Or.inr (Or.inr (exists_lineAt_of_hasLine ?_))
      rw [hasLine, Bool.and_eq_true, decide_eq_true_eq, decide_eq_true_eq]
      omega

theorem offsetAt_le (source : Source) (place : Position) :
    source.offsetAt place ≤ source.endOffset := by
  rcases source.place_cases place with hneg | hcount | ⟨i, before, line, after, hi, hline⟩
  · rw [offsetAt_of_neg hneg]
    exact Nat.zero_le _
  · rw [offsetAt_of_ge hcount]
  · obtain ⟨number, column⟩ := place
    subst hi
    rw [offsetAt_cut hline, endOffset, hline.split, List.length_append, List.length_append]
    omega

/-- **Of two places, the earlier one has no greater offset.** Places outside the document are the
first or the last offset (`place_cases`). -/
theorem monotone_offsetAt (source : Source) : Monotone source.offsetAt := by
  intro p q hle
  have horder := Position.le_iff.mp hle
  -- A line lies before the document, behind it, or is one of its own.
  rcases source.place_cases p with hneg | hcount | ⟨i, before, line, after, hi, hline⟩
  · rw [offsetAt_of_neg hneg]
    exact Nat.zero_le _
  · rw [offsetAt_of_ge hcount, offsetAt_of_ge (by omega)]
  · rcases source.place_cases q with hneg | hcount | ⟨j, before', line', after', hj, hline'⟩
    · omega
    · rw [offsetAt_of_ge hcount]
      exact source.offsetAt_le p
    · obtain ⟨_, column⟩ := p
      obtain ⟨_, column'⟩ := q
      simp only at hi hj horder
      subst hi hj
      rw [offsetAt_cut hline, offsetAt_cut hline']
      rcases horder with hlt | ⟨heq, hcolumn⟩
      · have := hline.apart hline' (by omega)
        omega
      · obtain rfl : i = j := by omega
        have hstart : before.length = before'.length := by
          rw [← lineStart_of_lineAt hline, lineStart_of_lineAt hline']
        have htext : line = line' := by rw [← lineText_of_lineAt hline, lineText_of_lineAt hline']
        rw [hstart, htext]
        omega

/-! ## There and back -/

/-- The place of the document nearest to any place: its start for a line before it, its end for a
line behind it, and otherwise the nearest column of the line. `positionAt_offsetAt` says that the
way to an offset and back ends there. -/
def nearest (source : Source) (place : Position) : Position :=
  if place.line < 0 then ⟨0, 0⟩
  else if source.lineCount ≤ place.line then source.endPosition
  else ⟨place.line, min (max place.column 0) (source.lineText place.line).length⟩

theorem positionAt_zero (source : Source) : source.positionAt 0 = ⟨0, 0⟩ := by
  obtain ⟨i, before, line, after, column, hline, hzero, hcolumn⟩ :=
    exists_lineAt_of_le (Nat.zero_le source.text.length)
  have hplace := positionAt_of_lineAt hline hcolumn
  rw [← hzero] at hplace
  obtain rfl : before = [] := List.eq_nil_of_length_eq_zero (by omega)
  obtain rfl : 0 = i := hline.index
  obtain rfl : 0 = column := by simpa using hzero
  exact hplace

/-- **The place of the offset of a place is the nearest place of the document.** What the nearest
one is says `nearest`, without mention of an offset. -/
theorem positionAt_offsetAt (source : Source) (place : Position) :
    source.positionAt (source.offsetAt place) = source.nearest place := by
  unfold nearest
  rcases source.place_cases place with hneg | hcount | ⟨i, before, line, after, hi, hline⟩
  · rw [if_pos hneg, offsetAt_of_neg hneg]
    exact source.positionAt_zero
  · rw [if_neg (by omega), if_pos hcount, offsetAt_of_ge hcount]
    rfl
  · obtain ⟨number, column⟩ := place
    subst hi
    have hlines := lineCount_of_lineAt hline
    rw [if_neg (by simp only; omega), if_neg (by simp only; omega), offsetAt_cut hline,
      positionAt_of_lineAt hline (Nat.min_le_right _ _), lineText_of_lineAt hline]
    have hcut : ((min column.toNat line.length : Nat) : Int) = min (max column 0) line.length := by
      omega
    rw [hcut]

theorem endPosition_line_lt (source : Source) : source.endPosition.line < source.lineCount := by
  obtain ⟨i, before, line, after, column, hline, hend, hcolumn⟩ :=
    exists_lineAt_of_le (Nat.le_refl source.text.length)
  have hlines := lineCount_of_lineAt hline
  rw [endPosition, endOffset, hend, positionAt_of_lineAt hline hcolumn]
  simp only
  omega

theorem lineCount_pos (source : Source) : 0 < source.lineCount := by
  rw [lineCount_eq]
  exact Nat.succ_pos _

/-- The places that are nearest to themselves are those of the document. This turns
`positionAt_offsetAt` into an equivalence. -/
theorem nearest_eq_self_iff {place : Position} :
    source.nearest place = place ↔
      (0 ≤ place.line ∧ place.line < source.lineCount) ∧
        0 ≤ place.column ∧ place.column ≤ (source.lineText place.line).length := by
  have hpos := source.lineCount_pos
  have hend := source.endPosition_line_lt
  unfold nearest
  obtain ⟨number, column⟩ := place
  simp only
  split
  · constructor
    · intro h
      obtain ⟨hline, -⟩ := Position.mk.inj h
      omega
    · rintro ⟨⟨hline, -⟩, -⟩
      omega
  · split
    · constructor
      · intro h
        rw [h] at hend
        simp only at hend
        omega
      · rintro ⟨⟨-, hline⟩, -⟩
        omega
    · rw [Position.mk.injEq]
      omega

/-- **Places and offsets are inverse to each other, and order is kept.** An offset is found again
from its place, cut to the document. Places strictly increase along the document. Offsets of places
lie in the document and increase with the places. A place is found again from its offset exactly
when the document has such a line and the line has such a column; every other place is taken to the
nearest one. Each part is a lemma of its own; the nearest place is `nearest`. -/
theorem places_inverse_offsets (source : Source) :
    (∀ offset, source.offsetAt (source.positionAt offset) = source.clamp offset ∧
      (source.clamp offset : Int) = min (max offset 0) source.endOffset) ∧
    StrictMonoOn source.positionAt (Set.Icc 0 source.endOffset) ∧
    (∀ place, source.offsetAt place ≤ source.endOffset) ∧
    Monotone source.offsetAt ∧
    (∀ place, source.positionAt (source.offsetAt place) = place ↔
      (0 ≤ place.line ∧ place.line < source.lineCount) ∧
        0 ≤ place.column ∧ place.column ≤ (source.lineText place.line).length) ∧
    ∀ place, source.positionAt (source.offsetAt place) = source.nearest place := by
  refine ⟨fun offset => ⟨?_, source.clamp_eq offset⟩, source.strictMonoOn_positionAt,
    source.offsetAt_le, source.monotone_offsetAt, fun place => ?_, source.positionAt_offsetAt⟩
  · rw [← positionAt_clamp]
    exact offsetAt_positionAt (source.clamp_le offset)
  · rw [positionAt_offsetAt]
    exact nearest_eq_self_iff

end Source
end SpiceKit

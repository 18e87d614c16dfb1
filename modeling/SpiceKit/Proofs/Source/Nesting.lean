import SpiceKit.Proofs.Declaration.Order
import SpiceKit.Proofs.Source.Matching

/-!
# Blocks nest

Two blocks of one document are looked for by two walks that know nothing of each other, one from an
earlier offset than the other. **`Source.blocks_nest`** says how they may lie: the first block is
over where the second walk starts, or the second block ends inside the first one, or the second
block opens only behind it. They never overlap in part.

The argument is by counting, and never follows two walks side by side. Where a block is open, more
is open than closed from its brace on (`Matches.ahead`); at its end the two are even. So between the
two more is closed than opened (`Matches.closes_more`), and a block that opens there has no choice
but to be closed before (`Matches.blockEnd_lt`).
-/

set_option autoImplicit false

namespace SpiceKit
namespace Source

variable {source : Source} {s t i j r : Nat}

/-! ## The opening brace and what stands before an offset -/

theorem Opens.lt_endOffset (h : source.Opens s i) : i < source.endOffset := by
  obtain ⟨⟨-, hi⟩, -⟩ := h
  exact (List.getElem?_eq_some_iff.mp hi).1

theorem mem_slice_iff : '{' ∈ source.slice s r ↔ ∃ i, source.Opens s i ∧ i < r := by
  constructor
  · intro hmem
    obtain ⟨i, hopens⟩ := exists_opens_of_mem (List.mem_of_mem_take hmem)
    refine ⟨i, hopens, ?_⟩
    obtain ⟨n, hn, hchar⟩ := List.mem_take_iff_getElem.mp hmem
    have hat : source.text[s + n]? = some '{' := by
      rw [← List.getElem?_drop, List.getElem?_eq_getElem (by omega), hchar]
    have hle : i ≤ s + n := hopens.2 ⟨Nat.le_add_right s n, hat⟩
    omega
  · intro hopens
    obtain ⟨i, ⟨⟨hle, hi⟩, -⟩, hlt⟩ := hopens
    obtain ⟨n, rfl⟩ := Nat.exists_eq_add_of_le hle
    apply List.mem_of_getElem? (i := n)
    rw [slice, List.getElem?_take_of_lt (by omega), List.getElem?_drop]
    exact hi

theorem drop_drop_sub (hij : i ≤ j) :
    (source.text.drop i).drop (j - i) = source.text.drop j := by
  rw [List.drop_drop, Nat.add_sub_cancel' hij]

theorem slice_append_slice (hij : i ≤ j) (hjr : j ≤ r) :
    source.slice i j ++ source.slice j r = source.slice i r := by
  unfold slice
  rw [← drop_drop_sub hij, ← List.take_add, show j - i + (r - j) = r - i by omega]

/-! ## Where one block ends -/

/-- A block is closed, or from its brace on there is always more open than closed. The two cases are
those of `closeFrom`, and every comparison of two blocks below starts from them. -/
theorem Opens.matches_or_ahead (h : source.Opens s i) :
    source.Matches i (source.blockEnd s) ∨
      (source.blockEnd s = source.endOffset ∧ ∀ k, i < k → source.Ahead i k) := by
  have hfrom : source.Opens (source.clamp s) i := by
    rw [clamp_eq_self (h.1.1.trans h.lt_endOffset.le)]
    exact h
  obtain ⟨rest, hdrop, hend⟩ := hfrom.exists_walk
  cases hwalk : closeFrom 1 (i + 1) rest with
  | some stop =>
    left
    rw [hend, hwalk, Option.getD_some]
    exact matches_of_closeFrom hdrop hwalk
  | none =>
    right
    refine ⟨by rw [hend, hwalk, Option.getD_none], ?_⟩
    intro k hk
    obtain ⟨n, rfl⟩ := Nat.exists_eq_add_of_le (Nat.succ_le_of_lt hk)
    exact (ahead_iff hdrop n).mpr (lt_of_closeFrom_eq_none hwalk (List.take_prefix n rest))

theorem Opens.lt_blockEnd (h : source.Opens s i) : i < source.blockEnd s := by
  rcases h.matches_or_ahead with hmatches | ⟨hend, -⟩
  · exact hmatches.least.1.1
  · rw [hend]
    exact h.lt_endOffset

theorem blockEnd_of_not_opens (ht : t ≤ source.endOffset) (h : ∀ i, ¬ source.Opens t i) :
    source.blockEnd t = source.endOffset := by
  have hnone : '{' ∉ source.text.drop t := by
    intro hmem
    obtain ⟨i, hopens⟩ := exists_opens_of_mem hmem
    exact h i hopens
  rw [blockEnd_eq, clamp_eq_self ht, closeFrom_zero_of_not_mem hnone, Option.getD_none]

/-- **A walk that meets its brace behind a later offset is the walk from there.** So two offsets
with no opening brace between them have one block. `closeFrom_append` skips what lies between. -/
theorem blockEnd_eq_of_not_mem (hst : s ≤ t) (ht : t ≤ source.endOffset)
    (h : '{' ∉ source.slice s t) : source.blockEnd t = source.blockEnd s := by
  have hskip : source.text.drop s = source.slice s t ++ source.text.drop t := by
    rw [slice, ← drop_drop_sub hst, List.take_append_drop]
  have hlength : s + (source.slice s t).length = t := by
    unfold endOffset at ht
    rw [slice, List.length_take, List.length_drop]
    omega
  rw [blockEnd_eq, blockEnd_eq, clamp_eq_self ht, clamp_eq_self (hst.trans ht), hskip,
    closeFrom_append h, hlength]

theorem le_blockEnd_of_not_mem (htr : t ≤ r) (hr : r ≤ source.endOffset)
    (h : '{' ∉ source.slice t r) : r ≤ source.blockEnd t := by
  rw [← blockEnd_eq_of_not_mem htr hr h]
  have hle := source.clamp_le_blockEnd r
  rwa [clamp_eq_self hr] at hle

/-! ## Two blocks -/

/-- Between an offset inside a block and its end more is closed than opened: before the offset more
is `Ahead`, and the whole is `Balanced`. A block that opens behind the offset therefore cannot
outlast the outer one. -/
theorem Matches.closes_more (h : source.Matches i r) (hij : i < j) (hjr : j < r) :
    (source.slice j r).count '{' < (source.slice j r).count '}' := by
  have hahead : (source.slice i j).count '}' < (source.slice i j).count '{' := h.ahead j hij hjr
  have hbalanced : (source.slice i r).count '{' = (source.slice i r).count '}' := h.least.1.2
  rw [← slice_append_slice hij.le hjr.le, List.count_append, List.count_append] at hbalanced
  omega

/-- **A block that opens inside another one is closed before it.** Up to the inner closing brace
more is open than closed (`Matches.closes_more`). -/
theorem Matches.blockEnd_lt (h : source.Matches i r) (hopens : source.Opens t j) (hij : i < j)
    (hjr : j < r) : source.blockEnd t < r := by
  have hmore := h.closes_more hij hjr
  rcases hopens.matches_or_ahead with hmatches | ⟨-, hahead⟩
  · by_contra hge
    -- At the end of the outer block the inner one would still be open, or just be even.
    rcases Nat.lt_or_eq_of_le (Nat.le_of_not_lt hge) with hlt | heq
    · have hahead : source.Ahead j r := hmatches.ahead r hjr hlt
      exact absurd hahead (Nat.lt_asymm hmore)
    · have hbalanced : source.Balanced j r := heq ▸ hmatches.least.1.2
      exact absurd hbalanced (Nat.ne_of_lt hmore)
  · exact absurd (hahead r hjr) (Nat.lt_asymm hmore)

/-- A block that opens before the end of an earlier one ends within it. This is the middle case of
`blockEnd_cases`. -/
theorem blockEnd_le_of_mem (hst : s ≤ t) (ht : t ≤ source.endOffset)
    (h : '{' ∈ source.slice t (source.blockEnd s)) : source.blockEnd t ≤ source.blockEnd s := by
  by_cases hbefore : '{' ∈ source.slice s t
  · obtain ⟨i, hopens, hit⟩ := mem_slice_iff.mp hbefore
    obtain ⟨j, hopens', hjr⟩ := mem_slice_iff.mp h
    rcases hopens.matches_or_ahead with hmatches | ⟨hend, -⟩
    · exact (hmatches.blockEnd_lt hopens' (Nat.lt_of_lt_of_le hit hopens'.1.1) hjr).le
    · rw [hend]
      exact source.blockEnd_le t
  · exact (blockEnd_eq_of_not_mem hst ht hbefore).le

/-- Two blocks end together only if they are the same one or neither is closed. One direction is
`blockEnd_eq_of_not_mem`. -/
theorem blockEnd_eq_iff (hst : s ≤ t) (ht : t ≤ source.endOffset) :
    source.blockEnd t = source.blockEnd s ↔
      '{' ∉ source.slice s t ∨
        source.blockEnd s = source.endOffset ∧ source.blockEnd t = source.endOffset := by
  constructor
  · intro heq
    by_cases hbefore : '{' ∈ source.slice s t
    · right
      have hend : source.blockEnd s = source.endOffset := by
        -- A brace before `t` that is closed ends its block before one that opens behind `t`.
        obtain ⟨i, hopens, hit⟩ := mem_slice_iff.mp hbefore
        rcases hopens.matches_or_ahead with hmatches | ⟨hend, -⟩
        · by_cases hopens' : ∃ j, source.Opens t j
          · obtain ⟨j, hopens'⟩ := hopens'
            have hjr : j < source.blockEnd s := heq ▸ hopens'.lt_blockEnd
            have hlt := hmatches.blockEnd_lt hopens' (Nat.lt_of_lt_of_le hit hopens'.1.1) hjr
            exact absurd heq hlt.ne
          · rw [← heq]
            exact blockEnd_of_not_opens ht (not_exists.mp hopens')
        · exact hend
      exact ⟨hend, heq.trans hend⟩
    · exact Or.inl hbefore
  · intro hsame
    rcases hsame with hbefore | ⟨hend, hend'⟩
    · exact blockEnd_eq_of_not_mem hst ht hbefore
    · exact hend'.trans hend.symm

/-- How the block from a later offset may lie to the block from an earlier one: behind it, inside
it, or not begun before it is over. It depends on where the next opening brace stands
(`blockEnd_le_of_mem`, `le_blockEnd_of_not_mem`). -/
theorem blockEnd_cases (hst : s ≤ t) (ht : t ≤ source.endOffset) :
    source.blockEnd s ≤ t ∨ source.blockEnd t ≤ source.blockEnd s ∨
      '{' ∉ source.slice t (source.blockEnd s) ∧ source.blockEnd s ≤ source.blockEnd t := by
  rcases Nat.le_total (source.blockEnd s) t with hover | hopen
  · exact Or.inl hover
  · right
    by_cases hmem : '{' ∈ source.slice t (source.blockEnd s)
    · exact Or.inl (blockEnd_le_of_mem hst ht hmem)
    · exact Or.inr ⟨hmem, le_blockEnd_of_not_mem hopen (source.blockEnd_le s) hmem⟩

/-- **Blocks nest.** Of two offsets of a document, the block of the earlier one is over at the later
one, or the block of the later one ends inside it, or no brace opens between the later offset and
the end of the earlier block, so that the block of the later one lies behind it. They end together
exactly when no brace opens between the two offsets, which makes them one block, or when both go on
to the end of the document. The same holds of what two declarations cover: one is over before the
other starts, or the later one lies inside the earlier one, or it opens its block only behind it.
The first half is `blockEnd_cases` and `blockEnd_eq_iff`; what a declaration covers is a block by
`stop_eq_blockEnd`. -/
theorem blocks_nest (source : Source) :
    (∀ s t : Nat, s ≤ t → t ≤ source.endOffset →
      (source.blockEnd s ≤ t ∨ source.blockEnd t ≤ source.blockEnd s ∨
        '{' ∉ source.slice t (source.blockEnd s) ∧ source.blockEnd s ≤ source.blockEnd t) ∧
      (source.blockEnd t = source.blockEnd s ↔ '{' ∉ source.slice s t ∨
        source.blockEnd s = source.endOffset ∧ source.blockEnd t = source.endOffset)) ∧
    ∀ a ∈ source.declarations, ∀ b ∈ source.declarations, a.start ≤ b.start →
      a.stop ≤ b.start ∨ b.stop ≤ a.stop ∨
        '{' ∉ source.slice b.start a.stop ∧ a.stop ≤ b.stop := by
  constructor
  · intro s t hst ht
    exact ⟨blockEnd_cases hst ht, blockEnd_eq_iff hst ht⟩
  · intro a ha b hb hle
    obtain ⟨before, after, rest, hwritten⟩ := exists_written hb
    rw [stop_eq_blockEnd ha, stop_eq_blockEnd hb]
    exact blockEnd_cases hle hwritten.start_lt.le

set_option maxRecDepth 4000 in
/-- A method of a class: it starts inside the block of the class and opens a block there, so that
its range lies within that of the class. -/
theorem blocks_nest_method :
    ∃ a ∈ (ofString "class A \x7b def f() \x7b\x7d \x7d").declarations,
      ∃ b ∈ (ofString "class A \x7b def f() \x7b\x7d \x7d").declarations,
        a.name = "A" ∧ b.name = "f" ∧ a.start ≤ b.start ∧ ¬ a.stop ≤ b.start ∧
        '{' ∈ (ofString "class A \x7b def f() \x7b\x7d \x7d").slice b.start a.stop ∧
        b.stop ≤ a.stop := by
  have hlist : (ofString "class A \x7b def f() \x7b\x7d \x7d").declarations =
      [⟨.cls, "A", 0, 6, 22⟩, ⟨.function, "f", 10, 14, 20⟩] := by cbv
  have hopens : '{' ∈ (ofString "class A \x7b def f() \x7b\x7d \x7d").slice 10 22 := by decide
  have hcls : ⟨.cls, "A", 0, 6, 22⟩ ∈
      (ofString "class A \x7b def f() \x7b\x7d \x7d").declarations := by simp [hlist]
  have hmethod : ⟨.function, "f", 10, 14, 20⟩ ∈
      (ofString "class A \x7b def f() \x7b\x7d \x7d").declarations := by simp [hlist]
  have hopen : ¬ 22 ≤ 10 := by decide
  refine ⟨_, hcls, _, hmethod, rfl, rfl, Nat.zero_le 10, hopen, hopens, ?_⟩
  rcases (blocks_nest _).2 _ hcls _ hmethod (Nat.zero_le 10) with hover | hinside | ⟨hunopened, -⟩
  · exact absurd hover hopen
  · exact hinside
  · exact absurd hopens hunopened

end Source
end SpiceKit

import SpiceKit.Proofs.Source.Lines

/-!
# The index of lines and the lines themselves

A document can be cut into lines in two ways that share no step. `Text.lines` walks through the text
and cuts at every line feed; the other readings go by the index, which holds offsets only, and by a
binary search in it. Here the two are compared.

Cutting is fixed by two facts: joined again, the lines are the text (`Text.intercalate_split`), and
no line holds a line feed (`Text.not_mem_of_mem_split`). The index is fixed by its order
(`pairwise_lineStarts`) and by what it holds, the start of the text and every offset behind a line
feed (`mem_lineStarts`). **`Source.index_agrees_with_lines`** says that the readings agree: in
number, line by line, and in the place of every offset, which is told by the line feeds before it
alone.
-/

set_option autoImplicit false

namespace SpiceKit

namespace Text

/-- The last line feed before an offset: it stands there, and none stands between the two. The
column of a place counts from behind it, as `index_agrees_with_lines` says. -/
structure LastBreak (text : List Char) (offset k : Nat) : Prop where
  before : k < offset
  at_break : text[k]? = some '\n'
  last : ∀ j, k < j → j < offset → text[j]? ≠ some '\n'

end Text

/-! ## What the index holds -/

theorem mem_startsAfter {offset start : Nat} {cs : List Char} :
    start ∈ startsAfter offset cs ↔ ∃ k, cs[k]? = some '\n' ∧ start = offset + k + 1 := by
  induction cs generalizing offset with
  | nil => simp [startsAfter]
  | cons c cs ih =>
    have hrest : start ∈ startsAfter (offset + 1) cs ↔
        ∃ k, (c :: cs)[k + 1]? = some '\n' ∧ start = offset + (k + 1) + 1 := by
      simp only [ih, List.getElem?_cons_succ, Nat.add_assoc, Nat.add_comm 1]
    rw [startsAfter]
    constructor
    · intro h
      split at h
      · rename_i hc
        rcases List.mem_cons.mp h with rfl | h
        · exact ⟨0, by rw [List.getElem?_cons_zero, hc], rfl⟩
        · obtain ⟨k, hk⟩ := hrest.mp h
          exact ⟨k + 1, hk⟩
      · obtain ⟨k, hk⟩ := hrest.mp h
        exact ⟨k + 1, hk⟩
    · rintro ⟨k, hk, hstart⟩
      cases k with
      | zero =>
        rw [List.getElem?_cons_zero] at hk
        rw [if_pos (Option.some.inj hk), hstart]
        exact List.mem_cons_self
      | succ k =>
        have hmem := hrest.mpr ⟨k, hk, hstart⟩
        split
        · exact List.mem_cons_of_mem _ hmem
        · exact hmem

theorem pairwise_startsAfter (offset : Nat) (cs : List Char) :
    (startsAfter offset cs).Pairwise (· < ·) := by
  induction cs generalizing offset with
  | nil => exact List.Pairwise.nil
  | cons c cs ih =>
    rw [startsAfter]
    split
    · exact List.pairwise_cons.mpr ⟨fun start hmem => (startsAfter_bounds hmem).1, ih _⟩
    · exact ih _

/-- **The index holds the start of the text and every offset behind a line feed**, and nothing else.
The order of the offsets is `pairwise_lineStarts`. -/
theorem mem_lineStarts {text : List Char} {start : Nat} :
    start ∈ lineStarts text ↔ start = 0 ∨ ∃ k, text[k]? = some '\n' ∧ start = k + 1 := by
  rw [lineStarts, List.mem_cons, mem_startsAfter]
  simp only [Nat.zero_add]

theorem pairwise_lineStarts (text : List Char) : (lineStarts text).Pairwise (· < ·) :=
  List.pairwise_cons.mpr
    ⟨fun _ hmem => (startsAfter_bounds hmem).1, pairwise_startsAfter 0 text⟩

/-! ## The two readings -/

namespace Source

open Text

variable {source : Source}

theorem lineCount_eq_length_lines (source : Source) :
    source.lineCount = source.lines.length := by
  rw [lineCount_eq, lines, length_lines]

theorem getElem?_lines_of_lt {i : Nat} (h : i < source.lineCount) :
    source.lines[i]? = some (source.lineText i) := by
  obtain ⟨before, line, after, hat⟩ := exists_lineAt_of_lt h
  rw [lineText_of_lineAt hat]
  exact hat.getElem?_lines

theorem take_of_lineAt {i column : Nat} {before line after : List Char}
    (h : LineAt source.text i before line after) (hcolumn : column ≤ line.length) :
    source.text.take (before.length + column) = before ++ line.take column := by
  rw [h.split, List.take_length_add_append, List.take_append_of_le_length hcolumn]

/-- The line of a place is the number of line feeds before it. A `LineAt` has the lines in front of
it spelled out, so this is a count over them. -/
theorem count_take_of_lineAt {i column : Nat} {before line after : List Char}
    (h : LineAt source.text i before line after) (hcolumn : column ≤ line.length) :
    (source.text.take (before.length + column)).count '\n' = i := by
  have hnone : '\n' ∉ line.take column := fun hmem => h.unbroken (List.mem_of_mem_take hmem)
  rw [take_of_lineAt h hcolumn, List.count_append, h.index, List.count_eq_zero_of_not_mem hnone,
    Nat.add_zero]

/-- The line of a place starts with the text, or right behind the last line feed before the place,
which is then the `LastBreak` of the place. -/
theorem lastBreak_of_lineAt {i column : Nat} {before line after : List Char}
    (h : LineAt source.text i before line after) (hcolumn : column ≤ line.length) :
    (before = [] ∧ '\n' ∉ source.text.take (before.length + column)) ∨
      ∃ k, before.length = k + 1 ∧ LastBreak source.text (before.length + column) k := by
  rcases h.fresh with rfl | hlast
  · refine Or.inl ⟨rfl, ?_⟩
    rw [take_of_lineAt h hcolumn, List.nil_append]
    exact fun hmem => h.unbroken (List.mem_of_mem_take hmem)
  · obtain ⟨init, rfl⟩ := List.getLast?_eq_some_iff.mp hlast
    have hlength : (init ++ ['\n']).length = init.length + 1 := List.length_append
    refine Or.inr ⟨init.length, hlength, ?_, ?_, ?_⟩
    · omega
    · rw [h.split, List.append_assoc, List.getElem?_append_right (Nat.le_refl _), Nat.sub_self]
      rfl
    · intro j hbehind hbefore hbreak
      rw [h.split, List.getElem?_append_right (by omega), List.getElem?_append_left (by omega)]
        at hbreak
      exact h.unbroken (List.mem_of_getElem? hbreak)

/-- **The index agrees with the lines.** It counts as many lines as there are, cuts out each of
them, and the lines joined again are the text. The place of an offset is told by the line feeds
before it: their number is the line, and the column counts from behind the last of them, or from the
start of the text if there is none. The column is told by `LastBreak`, the last line feed before the
offset. -/
theorem index_agrees_with_lines (source : Source) :
    source.lineCount = source.lines.length ∧
    (∀ i < source.lineCount, source.lines[i]? = some (source.lineText i)) ∧
    (['\n'].intercalate source.lines = source.text ∧ ∀ line ∈ source.lines, '\n' ∉ line) ∧
    (source.starts.toList.Pairwise (· < ·) ∧
      ∀ start, start ∈ source.starts ↔
        start = 0 ∨ ∃ k, source.text[k]? = some '\n' ∧ start = k + 1) ∧
    ∀ offset : Nat, offset ≤ source.endOffset →
      (source.positionAt offset).line = (source.text.take offset).count '\n' ∧
      (('\n' ∉ source.text.take offset ∧ (source.positionAt offset).column = offset) ∨
        ∃ k : Nat, LastBreak source.text offset k ∧
          (source.positionAt offset).column = (offset : Int) - (k + 1)) := by
  refine ⟨source.lineCount_eq_length_lines, fun i => getElem?_lines_of_lt,
    ⟨intercalate_split '\n' source.text, fun line => not_mem_of_mem_split⟩, ⟨?_, fun start => ?_⟩,
    fun offset hoffset => ?_⟩
  · rw [source.starts_eq]
    exact pairwise_lineStarts source.text
  · rw [source.starts_eq, List.mem_toArray]
    exact mem_lineStarts
  · obtain ⟨i, before, line, after, column, hline, rfl, hcolumn⟩ := exists_lineAt_of_le hoffset
    rw [positionAt_of_lineAt hline hcolumn]
    refine ⟨by rw [count_take_of_lineAt hline hcolumn], ?_⟩
    rcases lastBreak_of_lineAt hline hcolumn with ⟨rfl, hnone⟩ | ⟨k, hlength, hlast⟩
    · exact Or.inl ⟨hnone, by rw [List.length_nil, Nat.zero_add]⟩
    · refine Or.inr ⟨k, hlast, ?_⟩
      simp only
      omega

/-- A text with an empty line in it, looked at behind its last line feed. -/
theorem index_agrees_with_lines_empty_line :
    let source := Source.ofString "a\r\n\nb"
    source.lines[1]? = some (source.lineText 1) ∧ (source.positionAt 4).line = 2 ∧
      ∃ k : Nat, LastBreak source.text 4 k ∧ (source.positionAt 4).column = (4 : Int) - (k + 1) := by
  intro source
  obtain ⟨-, hlines, -, -, hplaces⟩ := index_agrees_with_lines source
  obtain ⟨hline, hcolumn⟩ := hplaces 4 (by decide)
  exact ⟨hlines 1 (by decide), hline, hcolumn.resolve_left fun hnone => hnone.1 (by decide)⟩

end Source
end SpiceKit

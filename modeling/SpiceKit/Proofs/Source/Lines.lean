import Mathlib.Data.List.Basic
import Mathlib.Data.List.TakeWhile
import SpiceKit.Proofs.Source.Block

/-!
# Lines and places

A document is cut into lines three times over: by `Text.lines`, by the index of line starts, and by
the binary search of `positionAt`. This file has one picture for all of them, `Text.LineAt`: the
text is `before ++ line ++ after`, where `before` ends a line (or is empty), `line` holds no line
feed, and `after` starts with one (or is empty). Every reading of the document is then a statement
about such a picture:

* the line is the `i`-th of `Text.lines` (`LineAt.getElem?_lines`);
* the index has `before.length` at `i`, and cuts out `line` (`lineStart_of_lineAt`,
  `lineText_of_lineAt`);
* the offset `before.length + column` is the place `(i, column)`, both ways (`positionAt_of_lineAt`,
  `offsetAt_of_lineAt`).

There is a picture for every line and for every offset, so no proof about places looks at the index
again.
-/

set_option autoImplicit false

namespace SpiceKit
namespace Text

/-! ## The picture -/

/-- The `i`-th line of a text, with what stands before and after it: `before` ends with a line feed
or is empty, `after` starts with one or is empty, and there are `i` line feeds before. Whatever is
proved about a place in a document starts from such a picture (`exists_lineAt_of_le`). -/
structure LineAt (text : List Char) (i : Nat) (before line after : List Char) : Prop where
  split : text = before ++ (line ++ after)
  index : before.count '\n' = i
  fresh : before = [] ∨ before.getLast? = some '\n'
  unbroken : '\n' ∉ line
  ended : after = [] ∨ after.head? = some '\n'

theorem not_mem_takeWhile_break (cs : List Char) : '\n' ∉ cs.takeWhile (· ≠ '\n') := by
  intro h
  simpa using List.mem_takeWhile_imp h

theorem dropWhile_break (cs : List Char) :
    cs.dropWhile (· ≠ '\n') = [] ∨ (cs.dropWhile (· ≠ '\n')).head? = some '\n' := by
  cases h : cs.dropWhile (· ≠ '\n') with
  | nil => exact Or.inl rfl
  | cons c rest =>
    have hhead := List.head?_dropWhile_not (· ≠ '\n') cs
    rw [h] at hhead
    exact Or.inr (by simpa using hhead)

theorem exists_first_line (text : List Char) :
    '\n' ∉ text ∨ ∃ l rest, '\n' ∉ l ∧ text = l ++ '\n' :: rest := by
  have hwhole := List.takeWhile_append_dropWhile (p := (· ≠ '\n')) (l := text)
  rcases dropWhile_break text with hnil | hhead
  · rw [hnil, List.append_nil] at hwhole
    exact Or.inl (hwhole ▸ not_mem_takeWhile_break text)
  · obtain ⟨rest, hrest⟩ := List.head?_eq_some_iff.mp hhead
    rw [hrest] at hwhole
    exact Or.inr ⟨_, rest, not_mem_takeWhile_break text, hwhole.symm⟩

/-- Induction over a text line by line: for the text of a single line, and for a line, a line feed
and a text for which it is already known. What is judged line by line is proved with it. It replaces
inductions on characters wherever lines are cut with `Text.lines`. -/
@[elab_as_elim]
theorem by_lines {P : List Char → Prop} (last : ∀ l, '\n' ∉ l → P l)
    (line : ∀ l rest, '\n' ∉ l → P rest → P (l ++ '\n' :: rest)) (text : List Char) : P text := by
  induction hn : text.length using Nat.strongRecOn generalizing text with
  | ind n ih =>
    rcases exists_first_line text with hnone | ⟨l, rest, hl, rfl⟩
    · exact last text hnone
    · refine line l rest hl (ih rest.length ?_ rest rfl)
      rw [List.length_append, List.length_cons] at hn
      omega

/-! ## Lines by cutting -/

theorem split_of_not_mem {separator : Char} {l : List Char} (h : separator ∉ l) :
    split separator l = [l] := by
  induction l with
  | nil => rfl
  | cons c l ih =>
    have hc : c ≠ separator := fun heq => h (by simp [heq])
    rw [split, if_neg hc, ih fun hmem => h (by simp [hmem])]

theorem split_append {separator : Char} {l : List Char} (h : separator ∉ l) (rest : List Char) :
    split separator (l ++ separator :: rest) = l :: split separator rest := by
  induction l with
  | nil => rw [List.nil_append, split, if_pos rfl]
  | cons c l ih =>
    have hc : c ≠ separator := fun heq => h (by simp [heq])
    rw [List.cons_append, split, if_neg hc, ih fun hmem => h (by simp [hmem])]

theorem split_cons_of_ne {separator c : Char} (hc : c ≠ separator) (cs : List Char) :
    ∃ piece pieces, split separator cs = piece :: pieces ∧
      split separator (c :: cs) = (c :: piece) :: pieces := by
  cases hpieces : split separator cs with
  | nil => exact absurd hpieces (split_ne_nil separator cs)
  | cons piece pieces =>
    refine ⟨piece, pieces, rfl, ?_⟩
    rw [split, if_neg hc, hpieces]

theorem not_mem_of_mem_split {separator : Char} {cs piece : List Char} (h : piece ∈ split separator cs) :
    separator ∉ piece := by
  induction cs generalizing piece with
  | nil =>
    obtain rfl : piece = [] := by simpa [split] using h
    exact List.not_mem_nil
  | cons c cs ih =>
    by_cases hc : c = separator
    · rw [split, if_pos hc, List.mem_cons] at h
      rcases h with rfl | h
      · exact List.not_mem_nil
      · exact ih h
    · obtain ⟨first, pieces, hpieces, hsplit⟩ := split_cons_of_ne hc cs
      rw [hsplit, List.mem_cons] at h
      rcases h with rfl | h
      · have hfirst : separator ∉ first := ih (by rw [hpieces]; exact List.mem_cons_self)
        simp [hfirst, Ne.symm hc]
      · exact ih (by rw [hpieces]; exact List.mem_cons_of_mem _ h)

theorem intercalate_split (separator : Char) (cs : List Char) :
    [separator].intercalate (split separator cs) = cs := by
  induction cs with
  | nil => rfl
  | cons c cs ih =>
    by_cases hc : c = separator
    · obtain ⟨piece, pieces, hpieces⟩ :=
        List.exists_cons_of_ne_nil (split_ne_nil separator cs)
      rw [hpieces] at ih
      rw [split, if_pos hc, hpieces, List.intercalate_cons_cons, ih, hc]
      rfl
    · obtain ⟨piece, pieces, hpieces, hsplit⟩ := split_cons_of_ne hc cs
      rw [hpieces] at ih
      rw [hsplit]
      cases pieces with
      | nil =>
        rw [List.intercalate_singleton] at ih ⊢
        rw [ih]
      | cons next pieces =>
        rw [List.intercalate_cons_cons] at ih ⊢
        rw [List.append_assoc, List.cons_append, ← List.append_assoc, ih]

theorem lines_of_not_mem {l : List Char} (h : '\n' ∉ l) : lines l = [l] := split_of_not_mem h

theorem lines_append_break {l : List Char} (h : '\n' ∉ l) (rest : List Char) :
    lines (l ++ '\n' :: rest) = l :: lines rest := split_append h rest

theorem length_lines (text : List Char) : (lines text).length = text.count '\n' + 1 := by
  induction text using by_lines with
  | last l hl => rw [lines_of_not_mem hl, List.count_eq_zero_of_not_mem hl, List.length_singleton]
  | line l rest hl ih =>
    rw [lines_append_break hl, List.length_cons, ih, List.count_append,
      List.count_eq_zero_of_not_mem hl, List.count_cons_self, Nat.zero_add]

namespace LineAt

variable {text before line after l rest : List Char} {i : Nat}

theorem zero (hl : '\n' ∉ l) (hafter : after = [] ∨ after.head? = some '\n') :
    LineAt (l ++ after) 0 [] l after :=
  ⟨rfl, rfl, Or.inl rfl, hl, hafter⟩

theorem zero_of_not_mem (hl : '\n' ∉ l) : LineAt l 0 [] l [] := by
  simpa using zero hl (Or.inl rfl)

theorem cons (hl : '\n' ∉ l) (h : LineAt rest i before line after) :
    LineAt (l ++ '\n' :: rest) (i + 1) (l ++ '\n' :: before) line after where
  split := by rw [h.split]; simp
  index := by
    rw [List.count_append, List.count_cons_self, h.index, List.count_eq_zero_of_not_mem hl]
    omega
  fresh := by
    right
    rcases h.fresh with rfl | hlast
    · simp
    · rw [List.getLast?_append, List.getLast?_cons, hlast]
      simp
  unbroken := h.unbroken
  ended := h.ended

/-- The line of a picture is the line of that number among `Text.lines`, so that what is said of
lines in a list can be said of stretches of the text. -/
theorem getElem?_lines (h : LineAt text i before line after) : (lines text)[i]? = some line := by
  obtain ⟨rfl, rfl, hfresh, hline, hended⟩ := h
  -- The text before goes line by line, and the number goes down with it.
  induction before using by_lines with
  | last l hl =>
    obtain rfl : l = [] := by
      refine hfresh.resolve_right fun hlast => hl ?_
      exact List.mem_of_getLast? hlast
    rcases hended with rfl | hhead
    · simp [lines_of_not_mem hline]
    · obtain ⟨rest, rfl⟩ := List.head?_eq_some_iff.mp hhead
      simp [lines_append_break hline]
  | line l rest hl ih =>
    rw [List.append_assoc, List.cons_append, lines_append_break hl, List.count_append,
      List.count_eq_zero_of_not_mem hl, List.count_cons_self, Nat.zero_add,
      List.getElem?_cons_succ]
    refine ih ?_
    rcases hfresh with hnil | hlast
    · simp at hnil
    · cases rest with
      | nil => exact Or.inl rfl
      | cons c rest =>
        rw [List.getLast?_append, List.getLast?_cons_cons] at hlast
        simpa using hlast

end LineAt

theorem exists_lineAt_of_getElem?_lines {text line : List Char} {i : Nat}
    (h : (lines text)[i]? = some line) : ∃ before after, LineAt text i before line after := by
  induction text using by_lines generalizing i with
  | last l hl =>
    rw [lines_of_not_mem hl] at h
    cases i with
    | zero =>
      obtain rfl : l = line := by simpa using h
      exact ⟨[], [], LineAt.zero_of_not_mem hl⟩
    | succ i => simp at h
  | line l rest hl ih =>
    rw [lines_append_break hl] at h
    cases i with
    | zero =>
      obtain rfl : l = line := by simpa using h
      exact ⟨[], _, LineAt.zero hl (Or.inr rfl)⟩
    | succ i =>
      obtain ⟨before, after, hline⟩ := ih (by simpa using h)
      exact ⟨_, after, hline.cons hl⟩

/-- **Every offset lies on a line**: in it, or right behind its last character. This is the way from
an offset to a picture, and `positionAt_of_lineAt` reads the place off the picture. -/
theorem exists_lineAt_of_le {text : List Char} {offset : Nat} (h : offset ≤ text.length) :
    ∃ i before line after column, LineAt text i before line after ∧
      offset = before.length + column ∧ column ≤ line.length := by
  induction text using by_lines generalizing offset with
  | last l hl => exact ⟨0, [], l, [], offset, LineAt.zero_of_not_mem hl, by simp, h⟩
  | line l rest hl ih =>
    rcases Nat.lt_or_ge l.length offset with hbehind | hinside
    · rw [List.length_append, List.length_cons] at h
      obtain ⟨i, before, line, after, column, hline, hoffset, hcolumn⟩ :=
        ih (show offset - (l.length + 1) ≤ rest.length by omega)
      refine ⟨i + 1, _, line, after, column, hline.cons hl, ?_, hcolumn⟩
      rw [List.length_append, List.length_cons]
      omega
    · exact ⟨0, [], l, _, offset, LineAt.zero hl (Or.inr rfl), by simp, hinside⟩

end Text

/-! ## Lines by the index -/

theorem startsAfter_append (offset : Nat) (a b : List Char) :
    startsAfter offset (a ++ b) = startsAfter offset a ++ startsAfter (offset + a.length) b := by
  induction a generalizing offset with
  | nil => rfl
  | cons c a ih =>
    rw [List.cons_append, startsAfter, startsAfter, ih, List.length_cons,
      show offset + 1 + a.length = offset + (a.length + 1) by omega]
    split
    · rfl
    · rfl

theorem startsAfter_of_not_mem (offset : Nat) {l : List Char} (h : '\n' ∉ l) :
    startsAfter offset l = [] := by
  induction l generalizing offset with
  | nil => rfl
  | cons c l ih =>
    have hc : c ≠ '\n' := fun heq => h (by simp [heq])
    rw [startsAfter, if_neg hc, ih _ fun hmem => h (by simp [hmem])]

theorem length_startsAfter (offset : Nat) (cs : List Char) :
    (startsAfter offset cs).length = cs.count '\n' := by
  induction cs generalizing offset with
  | nil => rfl
  | cons c cs ih =>
    rw [startsAfter]
    split
    · rename_i hc
      rw [hc, List.count_cons_self, List.length_cons, ih]
    · rename_i hc
      rw [List.count_cons_of_ne hc, ih]

theorem startsAfter_bounds {offset start : Nat} {cs : List Char}
    (h : start ∈ startsAfter offset cs) :
    offset < start ∧ start ≤ offset + cs.length := by
  induction cs generalizing offset with
  | nil => cases h
  | cons c cs ih =>
    rw [startsAfter] at h
    rw [List.length_cons]
    split at h
    · rcases List.mem_cons.mp h with rfl | h
      · omega
      · have := ih h
        omega
    · have := ih h
      omega

theorem length_lineStarts (text : List Char) :
    (lineStarts text).length = text.count '\n' + 1 := by
  rw [lineStarts, List.length_cons, length_startsAfter]

theorem le_length_of_mem_lineStarts {text : List Char} {start : Nat}
    (h : start ∈ lineStarts text) : start ≤ text.length := by
  rcases List.mem_cons.mp h with rfl | h
  · exact Nat.zero_le _
  · have := startsAfter_bounds h
    omega

theorem getLast?_lineStarts {before : List Char}
    (h : before = [] ∨ before.getLast? = some '\n') :
    (lineStarts before).getLast? = some before.length := by
  rcases h with rfl | hlast
  · rfl
  · obtain ⟨init, rfl⟩ := List.getLast?_eq_some_iff.mp hlast
    rw [lineStarts, startsAfter_append, ← List.cons_append, List.getLast?_append]
    simp [startsAfter]

/-- The index of a text, cut at one of its lines: the starts up to that line, and those behind it.
Both the search of `positionAt` and the look-up of `offsetAt` are read off this cut. -/
theorem lineStarts_of_lineAt {text before line after : List Char} {i : Nat}
    (h : Text.LineAt text i before line after) :
    lineStarts text = lineStarts before ++ startsAfter (before.length + line.length) after := by
  rw [lineStarts, h.split, startsAfter_append, startsAfter_append,
    startsAfter_of_not_mem _ h.unbroken, List.nil_append, Nat.zero_add, lineStarts,
    List.cons_append]

-- `k` splits the entries: those below it are not greater than `x`, those from it on are. The search
-- keeps `k` inside the interval.
theorem upperBound_eq {entries : Array Nat} {x k : Nat}
    (hlow : ∀ i, i < k → entries.getD i 0 ≤ x) (lo hi : Nat)
    (hhigh : ∀ i, k ≤ i → i < hi → x < entries.getD i 0) (hlo : lo ≤ k) (hhi : k ≤ hi) :
    upperBound entries x lo hi = k := by
  fun_induction upperBound entries x lo hi with
  | case1 lo hi hlt hless ih =>
    refine ih (fun i hi' hlt' => hhigh i hi' (by omega)) hlo ?_
    by_contra hgt
    have := hlow ((lo + hi) / 2) (by omega)
    omega
  | case2 lo hi hlt hless ih =>
    refine ih hhigh ?_ hhi
    by_contra hle
    exact hless (hhigh _ (by omega) (by omega))
  | case3 lo hi hge => omega

/-- Searching where the entries pass from at most `x` to above it. The index is sorted, so the
search ends at the cut of `lineStarts_of_lineAt`. -/
theorem upperBound_append {a b : List Nat} {x : Nat} (ha : ∀ e ∈ a, e ≤ x) (hb : ∀ e ∈ b, x < e) :
    upperBound (a ++ b).toArray x 0 (a ++ b).toArray.size = a.length := by
  have hsize : (a ++ b).toArray.size = a.length + b.length := by simp
  refine upperBound_eq (fun i hi => ?_) _ _ (fun i hi hlt => ?_) (Nat.zero_le _) (by omega)
  · rw [Array.getD_eq_getD_getElem?, List.getElem?_toArray, List.getElem?_append_left hi,
      List.getElem?_eq_getElem hi, Option.getD_some]
    exact ha _ (List.getElem_mem hi)
  · have hlt' : i - a.length < b.length := by omega
    rw [Array.getD_eq_getD_getElem?, List.getElem?_toArray, List.getElem?_append_right hi,
      List.getElem?_eq_getElem hlt', Option.getD_some]
    exact hb _ (List.getElem_mem hlt')

namespace Source

open Text

variable {source : Source} {i column : Nat} {before line after : List Char}

theorem lineStart_eq (source : Source) (i : Nat) :
    source.lineStart i = ((lineStarts source.text)[i]?).getD 0 := by
  rw [lineStart, source.starts_eq, Array.getD_eq_getD_getElem?, List.getElem?_toArray]

theorem lineCount_eq (source : Source) : source.lineCount = source.text.count '\n' + 1 := by
  rw [lineCount, source.starts_eq, List.size_toArray, length_lineStarts]

theorem lineCount_of_lineAt (h : LineAt source.text i before line after) :
    source.lineCount = i + 1 + after.count '\n' := by
  rw [lineCount_eq, h.split, List.count_append, List.count_append, h.index,
    List.count_eq_zero_of_not_mem h.unbroken]
  omega

theorem lineStart_of_lineAt (h : LineAt source.text i before line after) :
    source.lineStart i = before.length := by
  have hlength : (lineStarts before).length = i + 1 := by rw [length_lineStarts, h.index]
  have hlast := getLast?_lineStarts h.fresh
  rw [List.getLast?_eq_getElem?, hlength, Nat.add_sub_cancel] at hlast
  rw [lineStart_eq, lineStarts_of_lineAt h, List.getElem?_append_left (by omega), hlast,
    Option.getD_some]

theorem lineStart_succ_of_lineAt (h : LineAt source.text i before line after)
    (hafter : after.head? = some '\n') :
    source.lineStart (i + 1) = before.length + line.length + 1 := by
  obtain ⟨rest, rfl⟩ := List.head?_eq_some_iff.mp hafter
  have hlength : (lineStarts before).length = i + 1 := by rw [length_lineStarts, h.index]
  rw [lineStart_eq, lineStarts_of_lineAt h, List.getElem?_append_right (by omega), hlength,
    Nat.sub_self, startsAfter, if_pos rfl]
  rfl

theorem hasLine_of_lineAt (h : LineAt source.text i before line after) :
    source.hasLine i = true := by
  have := lineCount_of_lineAt h
  rw [hasLine, Bool.and_eq_true, decide_eq_true_eq, decide_eq_true_eq]
  omega

theorem lineText_of_lineAt (h : LineAt source.text i before line after) :
    source.lineText i = line := by
  have hcount := lineCount_of_lineAt h
  rw [lineText, if_pos (hasLine_of_lineAt h), Int.toNat_natCast, slice, lineStart_of_lineAt h,
    h.split, List.drop_left]
  rcases h.ended with rfl | hhead
  · rw [if_neg (by simp only [List.count_nil] at hcount; omega), List.append_nil]
  · rw [lineStart_succ_of_lineAt h hhead]
    obtain ⟨rest, rfl⟩ := List.head?_eq_some_iff.mp hhead
    rw [List.count_cons_self] at hcount
    rw [if_pos (by omega)]
    exact List.take_left' (by omega)

theorem slice_of_lineAt (h : LineAt source.text i before line after) {start stop : Nat}
    (hle : start ≤ stop) (hstop : stop ≤ line.length) :
    source.slice (before.length + start) (before.length + stop) =
      (line.drop start).take (stop - start) := by
  rw [slice, h.split, List.drop_length_add_append, List.drop_append_of_le_length (by omega),
    show before.length + stop - (before.length + start) = stop - start by omega,
    List.take_append_of_le_length]
  rw [List.length_drop]
  omega

/-- A line in range has its picture. The picture is a `LineAt`, which spells out what stands before
the line, on it and behind it. -/
theorem exists_lineAt_of_lt (h : i < source.lineCount) :
    ∃ before line after, LineAt source.text i before line after := by
  rw [lineCount_eq, ← length_lines] at h
  obtain ⟨before, after, hline⟩ := exists_lineAt_of_getElem?_lines (List.getElem?_eq_getElem h)
  exact ⟨before, _, after, hline⟩

theorem exists_lineAt_of_hasLine {number : Int} (h : source.hasLine number = true) :
    ∃ (i : Nat) (before line after : List Char),
      number = i ∧ LineAt source.text i before line after := by
  rw [hasLine, Bool.and_eq_true, decide_eq_true_eq, decide_eq_true_eq] at h
  obtain ⟨i, rfl⟩ := Int.eq_ofNat_of_zero_le h.1
  obtain ⟨before, line, after, hat⟩ := exists_lineAt_of_lt (Int.ofNat_lt.mp h.2)
  exact ⟨i, before, line, after, rfl, hat⟩

/-- The document has a line of that number, or the text of the line is empty. So `headTouches_iff`
need not ask first whether there is such a line. -/
theorem lineText_cases (source : Source) (number : Int) :
    source.lineText number = [] ∨
      ∃ i : Nat, number = i ∧ source.lines[i]? = some (source.lineText number) := by
  cases hhas : source.hasLine number with
  | false => exact Or.inl (by rw [lineText, hhas, if_neg Bool.false_ne_true])
  | true =>
    obtain ⟨i, before, line, after, rfl, hat⟩ := exists_lineAt_of_hasLine hhas
    rw [lineText_of_lineAt hat]
    exact Or.inr ⟨i, rfl, hat.getElem?_lines⟩

/-- **An offset on a line is the place of that line and column.** With `offsetAt_of_lineAt` for the
way back, nothing that is proved about places looks into the search again. -/
theorem positionAt_of_lineAt (h : LineAt source.text i before line after)
    (hcolumn : column ≤ line.length) :
    source.positionAt (before.length + column : Nat) = ⟨i, column⟩ := by
  have hend : before.length + column ≤ source.endOffset := by
    rw [endOffset, h.split, List.length_append, List.length_append]
    omega
  have hsearch :
      upperBound source.starts (before.length + column) 0 source.starts.size = i + 1 := by
    rw [source.starts_eq, lineStarts_of_lineAt h, upperBound_append, length_lineStarts, h.index]
    · intro start hmem
      have := le_length_of_mem_lineStarts hmem
      omega
    · intro start hmem
      have := (startsAfter_bounds hmem).1
      omega
  rw [positionAt]
  simp only [clamp_eq_self hend, hsearch, Nat.add_sub_cancel, lineStart_of_lineAt h]
  congr 1
  omega

/-- **The place of a line and column is an offset on that line**: the column itself, or the end of
the line if it lies behind that. With `positionAt_of_lineAt` this settles all queries on a line. -/
theorem offsetAt_of_lineAt (h : LineAt source.text i before line after)
    (hcolumn : column ≤ line.length) : source.offsetAt ⟨i, column⟩ = before.length + column := by
  have hcount := lineCount_of_lineAt h
  rw [offsetAt, if_neg (by simp only; omega), if_neg (by simp only; omega), lineText_of_lineAt h,
    Int.toNat_natCast, Int.toNat_natCast, lineStart_of_lineAt h, Nat.min_eq_left hcolumn]

/-- An offset of the document is found again from its place. `places_inverse_offsets` has it for any
integer, cut to the document first. -/
theorem offsetAt_positionAt {offset : Nat} (h : offset ≤ source.endOffset) :
    source.offsetAt (source.positionAt offset) = offset := by
  obtain ⟨i, before, line, after, column, hline, rfl, hcolumn⟩ := exists_lineAt_of_le h
  rw [positionAt_of_lineAt hline hcolumn, offsetAt_of_lineAt hline hcolumn]

end Source
end SpiceKit

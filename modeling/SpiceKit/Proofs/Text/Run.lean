import SpiceKit.Proofs.Scan
import SpiceKit.Proofs.Text.Piece

/-!
# Maximal runs of word characters

A word of a document is a run of word characters that goes on at neither end. `Run text start stop`
says so by offsets, and everything said about words by offsets goes through it: the names of
declarations, the word at a place, and the agreement between a line and the document it is cut from.

The one fact with content is `Run.eq_of_touch`: **two words never touch the same place**, ends
included. Between two words stands at least one character that belongs to neither.
-/

set_option autoImplicit false

namespace SpiceKit
namespace Text

/-! ## Word characters by offset -/

/-- Whether a word character stands at an offset. Runs, boundaries and what touches them are all
spoken of through `isWordAt`, so that a fact about a slice of the text becomes one about offsets. -/
def isWordAt (text : List Char) (i : Nat) : Bool := text[i]?.any isWordChar

/-- The character before an offset, if there is one, is no word character. It is what a reader that
looks at one character behind itself can tell (`any_charBefore_eq_false_iff`), and what keeps a
header from starting inside a word. -/
def Boundary (text : List Char) (i : Nat) : Prop := ∀ j, j + 1 = i → isWordAt text j = false

theorem isWordAt_append_left {a b : List Char} {i : Nat} (h : i < a.length) :
    isWordAt (a ++ b) i = isWordAt a i := by
  unfold isWordAt
  rw [List.getElem?_append_left h]

theorem isWordAt_append_right (a b : List Char) (i : Nat) :
    isWordAt (a ++ b) (a.length + i) = isWordAt b i := by
  unfold isWordAt
  rw [List.getElem?_append_right (by omega), Nat.add_sub_cancel_left]

theorem isWordAt_drop (text : List Char) (n i : Nat) :
    isWordAt (text.drop n) i = isWordAt text (n + i) := by
  unfold isWordAt
  rw [List.getElem?_drop]

theorem isWordAt_of_length_le {text : List Char} {i : Nat} (h : text.length ≤ i) :
    isWordAt text i = false := by
  unfold isWordAt
  rw [List.getElem?_eq_none h, Option.any_none]

theorem lt_length_of_isWordAt {text : List Char} {i : Nat} (h : isWordAt text i = true) :
    i < text.length := by
  by_contra hge
  rw [isWordAt_of_length_le (by omega)] at h
  cases h

theorem isWordAt_of_mem_names {n : List Char} (hn : n ∈ names) {i : Nat} (hi : i < n.length) :
    isWordAt n i = true := by
  unfold isWordAt
  rw [List.getElem?_eq_getElem hi, Option.any_some]
  exact hn.2 _ (List.getElem_mem hi)

theorem isWordAt_of_mem_blanks {g : List Char} (hg : g ∈ blanks) (i : Nat) :
    isWordAt g i = false := by
  unfold isWordAt
  cases hc : g[i]? with
  | none => rfl
  | some c => exact isWordChar_of_isBlank (hg c (List.mem_of_getElem? hc))

theorem stops_iff_isWordAt {text : List Char} :
    Stops isWordChar text ↔ isWordAt text 0 = false := by
  cases text with
  | nil => simp [isWordAt]
  | cons c text => simp [isWordAt]

theorem any_charBefore_eq_false_iff {text : List Char} {i : Nat} (hi : i ≤ text.length) :
    (Scan.charBefore text i).any isWordChar = false ↔ Boundary text i := by
  unfold Scan.charBefore Boundary
  cases i with
  | zero => simp
  | succ i =>
    have hlast : (text.take (i + 1)).getLast? = text[i]? := by
      rw [List.getLast?_eq_getElem?, List.length_take, Nat.min_eq_left hi, Nat.add_sub_cancel,
        List.getElem?_take_of_lt (by omega)]
    rw [hlast]
    constructor
    · intro h j hj
      obtain rfl : j = i := by omega
      exact h
    · intro h
      exact h i rfl

/-- No word runs over a seam behind which the first half ends with no word character. `Boundary` is
the word for such an offset. -/
theorem boundary_append {a : List Char} (h : a.getLast?.any isWordChar = false) (b : List Char) :
    Boundary (a ++ b) a.length := by
  refine (any_charBefore_eq_false_iff (by simp)).mp ?_
  rwa [Scan.charBefore, List.take_left]

/-! ## Runs -/

/-- A maximal run of word characters: it is not empty, all its characters are word characters, and
none stands at either side of it. The names of declarations, the words under a place and the names
of calls are runs. Its ends are `Boundary` offsets of the text. -/
structure Run (text : List Char) (start stop : Nat) : Prop where
  lt : start < stop
  inside : ∀ i, start ≤ i → i < stop → isWordAt text i = true
  before : Boundary text start
  behind : isWordAt text stop = false

namespace Run

variable {text : List Char} {start stop start' stop' : Nat}

theorem stop_le (h : Run text start stop) : stop ≤ text.length := by
  have hlt := h.lt
  have := lt_length_of_isWordAt (h.inside (stop - 1) (by omega) (by omega))
  omega

theorem start_le_of_touch (h : Run text start stop) (h' : Run text start' stop')
    (htouch : start' ≤ stop) : start' ≤ start := by
  by_contra hlt
  have hword := h.inside (start' - 1) (by omega) (by omega)
  rw [h'.before (start' - 1) (by omega)] at hword
  cases hword

theorem stop_le_of_inside (h : Run text start stop) (h' : Run text start' stop')
    (hle : start' ≤ stop) : stop' ≤ stop := by
  by_contra hlt
  have hword := h'.inside stop hle (by omega)
  rw [h.behind] at hword
  cases hword

/-- **Two words that touch the same place are one.** Each of them would go on where the other does.
`exists_wordAt_iff` owes it that there is one word at a place at most. -/
theorem eq_of_touch (h : Run text start stop) (h' : Run text start' stop')
    (hle : start' ≤ stop) (hle' : start ≤ stop') : start = start' ∧ stop = stop' := by
  have h1 := h.start_le_of_touch h' hle
  have h2 := h'.start_le_of_touch h hle'
  have h3 := h.stop_le_of_inside h' hle
  have h4 := h'.stop_le_of_inside h hle'
  omega

end Run

/-- A name with nothing of its kind at either side is a run. The `names` of the grammars become runs
with this. -/
theorem run_of_split {text n rest : List Char} {start : Nat} (hn : n ∈ names)
    (hsplit : text.drop start = n ++ rest) (hbefore : Boundary text start)
    (hrest : Stops isWordChar rest) : Run text start (start + n.length) where
  lt := by
    have := List.length_pos_iff.mpr hn.1
    omega
  inside := by
    intro i hle hlt
    obtain ⟨k, rfl⟩ := Nat.exists_eq_add_of_le hle
    rw [← isWordAt_drop, hsplit, isWordAt_append_left (by omega)]
    exact isWordAt_of_mem_names hn (by omega)
  before := hbefore
  behind := by
    rw [← isWordAt_drop, hsplit]
    have := isWordAt_append_right n rest 0
    rw [Nat.add_zero] at this
    rw [this]
    exact stops_iff_isWordAt.mp hrest

end Text
end SpiceKit

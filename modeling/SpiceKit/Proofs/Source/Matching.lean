import Mathlib.Order.Bounds.Basic
import SpiceKit.Proofs.Source.Braces

/-!
# The end of a block, said without a walk

`Source.blockEnd` walks with a depth. Here it is compared with what a reader would say: look for the
first opening brace (`Source.Opens`), and from there for the first offset up to which as many braces
are closed as are opened (`Source.Balanced`). If there is one the block ends there, and otherwise at
the end of the document (**`Source.blockEnd_matches`**).

Behind the opening brace the walk stands at depth one. Where it ends it has closed what was open,
for the first time (`Closes`); where it does not end, more is open than closed at every offset on
the way (`Source.lt_of_closeFrom_eq_none`), so nothing there is balanced.
-/

set_option autoImplicit false

namespace SpiceKit
namespace Source

/-! ## What a reader looks for -/

/-- The first opening brace from an offset on: the brace stands there, at the offset or behind it,
and none stands between. A block is looked for from there on, as `Opens.exists_walk` says. -/
def Opens (source : Source) (start i : Nat) : Prop :=
  IsLeast {k | start ≤ k ∧ source.text[k]? = some '{'} i

/-- Between two offsets as many braces are closed as are opened. It is a matter of counting in a
slice of the document and knows nothing of a walk. A `slice` is all that it looks at. -/
def Balanced (source : Source) (i r : Nat) : Prop :=
  (source.slice i r).count '{' = (source.slice i r).count '}'

/-- Between two offsets more braces are opened than are closed, counted as in `Balanced`. Between an
opening brace and its end this holds at every offset. -/
def Ahead (source : Source) (i r : Nat) : Prop :=
  (source.slice i r).count '}' < (source.slice i r).count '{'

theorem Ahead.not_balanced {source : Source} {i r : Nat} (h : source.Ahead i r) :
    ¬ source.Balanced i r := by
  intro hbalanced
  exact absurd hbalanced (Nat.ne_of_gt h)

/-- What opens at one offset is closed right before another: between them the braces are balanced
for the first time, the last one closes, and on the way there is always more open than closed.
`Ahead` is that more is open. -/
structure Matches (source : Source) (i r : Nat) : Prop where
  least : IsLeast {k | i < k ∧ source.Balanced i k} r
  brace : source.text[r - 1]? = some '}'
  ahead : ∀ k, i < k → k < r → source.Ahead i k

/-! ## The opening brace -/

variable {source : Source}

theorem opens_of_split {start : Nat} {before rest : List Char}
    (hsplit : source.text.drop start = before ++ '{' :: rest) (hbefore : '{' ∉ before) :
    source.Opens start (start + before.length) := by
  have hat : ∀ k, source.text[start + k]? = (before ++ '{' :: rest)[k]? := by
    intro k
    rw [← hsplit, List.getElem?_drop]
  constructor
  · refine ⟨Nat.le_add_right _ _, ?_⟩
    rw [hat, List.getElem?_append_right (Nat.le_refl _), Nat.sub_self]
    rfl
  · rintro k ⟨hle, hk⟩
    by_contra hlt
    obtain ⟨n, rfl⟩ := Nat.exists_eq_add_of_le hle
    rw [hat, List.getElem?_append_left (by omega)] at hk
    exact hbefore (List.mem_of_getElem? hk)

/-- A text is cut at its first opening brace. The walk stands at depth one behind the cut, so that
what is left is said by `Closes` of the second part. -/
theorem Opens.exists_split {start i : Nat} (h : source.Opens start i) :
    ∃ before rest, source.text.drop start = before ++ '{' :: rest ∧ '{' ∉ before ∧
      i = start + before.length := by
  have hmem : '{' ∈ source.text.drop start := by
    obtain ⟨⟨hle, hi⟩, -⟩ := h
    obtain ⟨n, rfl⟩ := Nat.exists_eq_add_of_le hle
    rw [← List.getElem?_drop] at hi
    exact List.mem_of_getElem? hi
  obtain ⟨before, rest, hsplit, hbefore⟩ := List.eq_append_cons_of_mem hmem
  exact ⟨before, rest, hsplit, hbefore, h.unique (opens_of_split hsplit hbefore)⟩

/-- **From the opening brace on the walk stands at depth one**, wherever it began. `Opens` is the
brace with which `closeFrom` leaves depth zero. -/
theorem Opens.exists_walk {start : Int} {i : Nat} (h : source.Opens (source.clamp start) i) :
    ∃ rest, source.text.drop i = '{' :: rest ∧
      source.blockEnd start = (closeFrom 1 (i + 1) rest).getD source.endOffset := by
  obtain ⟨before, rest, hsplit, hbefore, rfl⟩ := h.exists_split
  refine ⟨rest, ?_, ?_⟩
  · rw [← List.drop_drop, hsplit, List.drop_left]
  · rw [blockEnd_eq, hsplit, closeFrom_append hbefore, closeFrom, if_pos rfl]

theorem exists_opens_of_mem {start : Nat} (h : '{' ∈ source.text.drop start) :
    ∃ i, source.Opens start i := by
  obtain ⟨before, rest, hsplit, hbefore⟩ := List.eq_append_cons_of_mem h
  exact ⟨_, opens_of_split hsplit hbefore⟩

/-! ## The closing brace -/

theorem slice_of_drop {i : Nat} {rest : List Char} (h : source.text.drop i = '{' :: rest) (n : Nat) :
    source.slice i (i + 1 + n) = '{' :: rest.take n := by
  rw [slice, h, show i + 1 + n - i = n + 1 by omega, List.take_succ_cons]

/-- More is open than closed between the opening brace and an offset if what stands behind the brace
closes less than that brace and what it opens itself. The left side counts in a slice (`Ahead`), the
right side in what the walk has still before it. -/
theorem ahead_iff {i : Nat} {rest : List Char} (h : source.text.drop i = '{' :: rest) (n : Nat) :
    source.Ahead i (i + 1 + n) ↔ (rest.take n).count '}' < 1 + (rest.take n).count '{' := by
  unfold Ahead
  rw [slice_of_drop h, List.count_cons_self, List.count_cons_of_ne (by decide), Nat.add_comm 1]

/-- What closes something ends in a closing brace. So the last brace of a block is the one that
closes it, as `Matches` asks. -/
theorem Closes.getLast? {depth : Nat} {cs : List Char} (h : Closes (depth + 1) cs) :
    cs.getLast? = some '}' := by
  rcases List.eq_nil_or_concat cs with rfl | ⟨front, c, rfl⟩
  · exact absurd h (not_closes_succ_nil depth)
  · rw [List.concat_eq_append] at h ⊢
    rw [List.getLast?_concat]
    by_contra hc
    have hlast : c ≠ '}' := fun heq => hc (by rw [heq])
    have hopen := h.still_open front (List.prefix_append _ _) (by simp)
    have hbalanced := h.balanced
    rw [List.count_append, List.count_append, List.count_singleton,
      List.count_singleton, if_neg (by simpa using hlast)] at hbalanced
    omega

/-- **A walk that does not end has closed less than is open**, at every place on the way. From this
comes that nothing is balanced where `blockEnd` answers the end of the document. -/
theorem lt_of_closeFrom_eq_none {cs p : List Char} {depth offset : Nat}
    (h : closeFrom (depth + 1) offset cs = none) (hp : p <+: cs) :
    p.count '}' < depth + 1 + p.count '{' := by
  induction cs generalizing p depth offset with
  | nil =>
    rw [List.prefix_nil.mp hp]
    simp
  | cons c cs ih =>
    cases p with
    | nil => simp
    | cons a p =>
      obtain ⟨rfl, htail⟩ := List.cons_prefix_cons.mp hp
      apply (count_cons_iff a depth p).2.mpr
      rw [closeFrom_succ_cons] at h
      cases hdepth : depthAfter a (depth + 1) with
      | zero => simp [hdepth] at h
      | succ depth' =>
        rw [hdepth, if_neg (Nat.succ_ne_zero depth')] at h
        exact ih h htail

theorem not_balanced_of_closeFrom {i r : Nat} {rest : List Char}
    (hdrop : source.text.drop i = '{' :: rest) (h : closeFrom 1 (i + 1) rest = none) (hlt : i < r) :
    ¬ source.Balanced i r := by
  obtain ⟨n, rfl⟩ := Nat.exists_eq_add_of_le (Nat.succ_le_of_lt hlt)
  apply Ahead.not_balanced
  exact (ahead_iff hdrop n).mpr (lt_of_closeFrom_eq_none h (List.take_prefix n rest))

/-- Where the walk ends, the block is balanced for the first time. What the walk counts down is
translated by `ahead_iff`. -/
theorem matches_of_closeFrom {i stop : Nat} {rest : List Char}
    (hdrop : source.text.drop i = '{' :: rest) (h : closeFrom 1 (i + 1) rest = some stop) :
    source.Matches i stop := by
  obtain ⟨inside, after, rfl, hcloses, rfl⟩ := (closeFrom_succ_eq_some_iff rest).mp h
  have hahead : ∀ k, i < k → k < i + 1 + inside.length → source.Ahead i k := by
    intro k hlt hstop
    obtain ⟨n, rfl⟩ := Nat.exists_eq_add_of_le (Nat.succ_le_of_lt hlt)
    rw [ahead_iff hdrop, List.take_append_of_le_length (by omega)]
    apply hcloses.still_open _ (List.take_prefix _ _)
    intro heq
    have := congrArg List.length heq
    rw [List.length_take] at this
    omega
  -- The opening brace stands in front of what closes, and pays for the brace at its end.
  have hbalanced : source.Balanced i (i + 1 + inside.length) := by
    have := hcloses.balanced
    unfold Balanced
    rw [slice_of_drop hdrop, List.take_left, List.count_cons_self,
      List.count_cons_of_ne (by decide)]
    omega
  refine ⟨⟨⟨by omega, hbalanced⟩, ?_⟩, ?_, hahead⟩
  · rintro k ⟨hlt, hk⟩
    by_contra hstop
    exact (hahead k hlt (by omega)).not_balanced hk
  · have hlast := hcloses.getLast?
    have hpos : 0 < inside.length := by
      apply List.length_pos_iff.mpr
      rintro rfl
      exact not_closes_succ_nil 0 hcloses
    rw [List.getLast?_eq_getElem?] at hlast
    have hat : source.text[i + (inside.length - 1 + 1)]? =
        ('{' :: (inside ++ after))[inside.length - 1 + 1]? := by
      rw [← hdrop, List.getElem?_drop]
    rw [show i + 1 + inside.length - 1 = i + (inside.length - 1 + 1) by omega, hat,
      List.getElem?_cons_succ, List.getElem?_append_left (by omega)]
    exact hlast

/-! ## The block -/

theorem clamp_le_blockEnd (source : Source) (start : Int) :
    source.clamp start ≤ source.blockEnd start := by
  rw [blockEnd_eq]
  cases h : closeFrom 0 (source.clamp start) (source.text.drop (source.clamp start)) with
  | none => exact Nat.min_le_right _ _
  | some stop => exact Nat.le_of_lt (closeFrom_bounds _ h).1

/-- The length of a block depends on nothing but the text from its opening brace on. The walk from
there is the same but for its offsets (`closeFrom_shift`). -/
theorem blockEnd_sub_eq {other : Source} {start start' : Int} {i i' : Nat}
    (h : source.Opens (source.clamp start) i) (h' : other.Opens (other.clamp start') i')
    (hsame : other.text.drop i' = source.text.drop i) :
    other.blockEnd start' - i' = source.blockEnd start - i := by
  obtain ⟨rest, hdrop, hend⟩ := h.exists_walk
  obtain ⟨rest', hdrop', hend'⟩ := h'.exists_walk
  obtain rfl : rest' = rest := by
    rw [hdrop, hdrop'] at hsame
    exact List.tail_eq_of_cons_eq hsame
  have hlength := congrArg List.length hsame
  rw [List.length_drop, List.length_drop] at hlength
  rw [hend, hend', closeFrom_shift i' rest' 1 1, closeFrom_shift i rest' 1 1]
  cases closeFrom 1 1 rest' with
  | none => exact hlength
  | some stop => simp only [Option.map_some, Option.getD_some, Nat.add_sub_cancel_left]

/-- **A block ends where its braces are balanced for the first time.** From the first opening brace
at or behind the start on, that is at a closing brace, and before it more is open than closed; the
end of the document stands in where there is no opening brace or nothing is balanced. What stands
before the opening brace has no influence: where two documents go on alike from there, their blocks
are equally long. The end lies between the start, cut to the document, and the end of the document.
The first part is `Matches`, the part on other documents `blockEnd_sub_eq`. -/
theorem blockEnd_matches (source : Source) (start : Int) :
    (∀ i, source.Opens (source.clamp start) i → (∃ r, i < r ∧ source.Balanced i r) →
      source.Matches i (source.blockEnd start)) ∧
    ((¬ ∃ i r, source.Opens (source.clamp start) i ∧ i < r ∧ source.Balanced i r) →
      source.blockEnd start = source.endOffset) ∧
    (∀ (other : Source) (start' : Int) (i i' : Nat), source.Opens (source.clamp start) i →
      other.Opens (other.clamp start') i' → other.text.drop i' = source.text.drop i →
      other.blockEnd start' - i' = source.blockEnd start - i) ∧
    source.clamp start ≤ source.blockEnd start ∧ source.blockEnd start ≤ source.endOffset := by
  refine ⟨?closed, ?unclosed, fun _ _ _ _ => blockEnd_sub_eq, source.clamp_le_blockEnd start,
    source.blockEnd_le start⟩
  case closed =>
    rintro i hopens ⟨r, hlt, hbalanced⟩
    obtain ⟨rest, hdrop, hend⟩ := hopens.exists_walk
    cases hwalk : closeFrom 1 (i + 1) rest with
    | none => exact absurd hbalanced (not_balanced_of_closeFrom hdrop hwalk hlt)
    | some stop =>
      rw [hend, hwalk, Option.getD_some]
      exact matches_of_closeFrom hdrop hwalk
  case unclosed =>
    intro hnone
    by_cases hmem : '{' ∈ source.text.drop (source.clamp start)
    · obtain ⟨i, hopens⟩ := exists_opens_of_mem hmem
      obtain ⟨rest, hdrop, hend⟩ := hopens.exists_walk
      cases hwalk : closeFrom 1 (i + 1) rest with
      | none => rw [hend, hwalk, Option.getD_none]
      | some stop =>
        obtain ⟨⟨hlt, hbalanced⟩, -⟩ := (matches_of_closeFrom hdrop hwalk).least
        exact absurd ⟨i, stop, hopens, hlt, hbalanced⟩ hnone
    · rw [blockEnd_eq, closeFrom_zero_of_not_mem hmem, Option.getD_none]

end Source
end SpiceKit

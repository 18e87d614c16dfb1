import Mathlib.Order.Monotone.Basic
import SpiceKit.Scan

/-!
# What a scan finds

`Scan.hits` is a walk with a skip counter. What it is *for* is said here without the walk:
`Leftmost At n hits` holds of the items met from `n` on when each is the first at or behind the end
of the one before, with no item starting in between. **`hits_leftmost`** says that the walk answers
that list.

`At` is any relation "an item starts here and goes up to there", so that the same notion serves the
reader of the walk (`ItemAt`), the grammar that the reader is proved to follow, and the same text
with other line ends (`Leftmost.map`). There is only one such list (`Leftmost.unique`), which is how
two scans are shown to agree without comparing two walks. Where no two things that are to be found
start inside each other, a list that holds nothing else holds all of them (`Leftmost.mem_iff`).
-/

set_option autoImplicit false

namespace SpiceKit
namespace Scan

variable {α β : Type}

theorem Hit.eq_of_fields {a b : Hit α} (hstart : a.start = b.start) (hstop : a.stop = b.stop)
    (hvalue : a.value = b.value) : a = b := by
  cases a
  cases b
  simp_all

/-! ## Leftmost lists -/

/-- The items met from an offset on, each the first one behind the one before it. This is what a
scan is held to: `hits_leftmost` proves it of the walk, and everything that is said of what a scan
finds (`covers`, `mem_iff`, `unique`) is said of such lists. -/
inductive Leftmost (At : Nat → α → Nat → Prop) : Nat → List (Hit α) → Prop
  | done {n : Nat} (none : ∀ i value stop, n ≤ i → ¬ At i value stop) : Leftmost At n []
  | next {n : Nat} {hit : Hit α} {hits : List (Hit α)} (le : n ≤ hit.start)
      (none : ∀ i value stop, n ≤ i → i < hit.start → ¬ At i value stop)
      (item : At hit.start hit.value hit.stop) (rest : Leftmost At hit.stop hits) :
      Leftmost At n (hit :: hits)

namespace Leftmost

variable {At : Nat → α → Nat → Prop} {n : Nat} {hits : List (Hit α)}

/-- An offset at which nothing starts may be passed over. The walk of `hitsFrom` does so one
character at a time, where `Leftmost` leaps to the next item. -/
theorem skip (hnone : ∀ value stop, ¬ At n value stop) (h : Leftmost At (n + 1) hits) :
    Leftmost At n hits := by
  cases h with
  | done none =>
    refine .done fun i value stop hi => ?_
    rcases Nat.eq_or_lt_of_le hi with rfl | hlt
    · exact hnone value stop
    · exact none i value stop hlt
  | next le none item rest =>
    refine .next (by omega) (fun i value stop hi hlt => ?_) item rest
    rcases Nat.eq_or_lt_of_le hi with rfl | hgt
    · exact hnone value stop
    · exact none i value stop hgt hlt

theorem item_of_mem (h : Leftmost At n hits) :
    ∀ hit ∈ hits, At hit.start hit.value hit.stop := by
  induction h with
  | done none => intro hit hmem; cases hmem
  | next le none item rest ih =>
    intro hit hmem
    rcases List.mem_cons.mp hmem with rfl | hmem
    · exact item
    · exact ih hit hmem

theorem le_start_of_mem (hlt : ∀ {i value stop}, At i value stop → i < stop)
    (h : Leftmost At n hits) : ∀ hit ∈ hits, n ≤ hit.start := by
  induction h with
  | done none => intro hit hmem; cases hmem
  | next le none item rest ih =>
    intro hit hmem
    rcases List.mem_cons.mp hmem with rfl | hmem
    · exact le
    · have := ih hit hmem
      have := hlt item
      omega

/-- No two items overlap, and they come in order: each starts where the one before it stops, or
later. From this come the orders of declarations, redefinitions and findings. It holds of any list
that is `Leftmost`, not only of what `hits` answers. -/
theorem pairwise (hlt : ∀ {i value stop}, At i value stop → i < stop) (h : Leftmost At n hits) :
    hits.Pairwise fun a b => a.stop ≤ b.start := by
  induction h with
  | done none => exact List.Pairwise.nil
  | next le none item rest ih => exact List.Pairwise.cons (le_start_of_mem hlt rest) ih

/-- **Nothing is missed**: wherever an item could start, one that was found covers the place.
`redefinitions_agree_declarations` finds with it the header that covers a definition. -/
theorem covers (h : Leftmost At n hits)
    {i : Nat} {value : α} {stop : Nat} (hi : n ≤ i) (hitem : At i value stop) :
    ∃ hit ∈ hits, hit.start ≤ i ∧ i < hit.stop := by
  induction h with
  | done none => exact absurd hitem (none i value stop hi)
  | @next n hit hits le none item rest ih =>
    rcases Nat.lt_or_ge i hit.start with hbefore | hfrom
    · exact absurd hitem (none i value stop hi hbefore)
    · rcases Nat.lt_or_ge i hit.stop with hinside | hbehind
      · exact ⟨hit, by simp, hfrom, hinside⟩
      · obtain ⟨other, hmem, hcover⟩ := ih hbehind
        exact ⟨other, by simp [hmem], hcover⟩

/-- **What is found is all there is to find**, if of two things to find none may start inside the
other. Words and heads of calls are of this kind, and `mem_hits_readWord_iff` and
`mem_hits_readCallHead_iff` are cases of it. -/
theorem mem_iff (Found : Hit α → Prop)
    (hfun : ∀ {i value stop value' stop'}, At i value stop → At i value' stop' →
      value = value' ∧ stop = stop')
    (hitem : ∀ {hit}, Found hit → At hit.start hit.value hit.stop)
    (hinside : ∀ {hit other}, Found hit → Found other → other.start ≤ hit.start →
      hit.start < other.stop → other.start = hit.start)
    (h : Leftmost At 0 hits) (hsound : ∀ hit ∈ hits, Found hit) {hit : Hit α} :
    hit ∈ hits ↔ Found hit := by
  refine ⟨hsound hit, fun hfound => ?_⟩
  obtain ⟨other, hmem, hle, hlt⟩ := h.covers (Nat.zero_le _) (hitem hfound)
  have hstart := hinside hfound (hsound other hmem) hle hlt
  obtain ⟨hvalue, hstop⟩ := hfun (hstart ▸ h.item_of_mem other hmem) (hitem hfound)
  rwa [← Hit.eq_of_fields hstart hstop hvalue]

/-- There is one such list, if at each offset there is one item at most. Since `hits` answers one,
it is the one that `filterKind_declarations_leftmost` describes. -/
theorem unique (hfun : ∀ {i value stop value' stop'}, At i value stop → At i value' stop' →
      value = value' ∧ stop = stop')
    (h : Leftmost At n hits) {hits' : List (Hit α)} (h' : Leftmost At n hits') :
    hits = hits' := by
  induction h generalizing hits' with
  | done none =>
    cases h' with
    | done _ => rfl
    | next le _ item _ => exact absurd item (none _ _ _ le)
  | @next n hit hits le none item rest ih =>
    cases h' with
    | done none' => exact absurd item (none' _ _ _ le)
    | @next _ hit' hits' le' none' item' rest' =>
      have hstart : hit.start = hit'.start := by
        rcases Nat.lt_trichotomy hit.start hit'.start with hlt | heq | hgt
        · exact absurd item (none' _ _ _ le hlt)
        · exact heq
        · exact absurd item' (none _ _ _ le' hgt)
      obtain ⟨hvalue, hstop⟩ := hfun item (hstart ▸ item')
      obtain rfl := Hit.eq_of_fields hstart hstop hvalue
      rw [ih rest']

/-- A leftmost list is carried over to other items and other offsets, if items correspond in both
directions and the offsets keep their order. `hits_withReturns` carries one over to the text with
carriage returns, along `moved`. -/
theorem map {At' : Nat → β → Nat → Prop} {φ : Nat → Nat} (hφ : StrictMono φ)
    {g : Hit α → Hit β} (hstart : ∀ hit, (g hit).start = φ hit.start)
    (hstop : ∀ hit, (g hit).stop = φ hit.stop)
    (hitem : ∀ hit : Hit α, At hit.start hit.value hit.stop →
      At' (φ hit.start) (g hit).value (φ hit.stop))
    (hback : ∀ {i' value' stop'}, At' i' value' stop' → ∃ i value stop, i' = φ i ∧ At i value stop)
    (h : Leftmost At n hits) : Leftmost At' (φ n) (hits.map g) := by
  induction h with
  | done none =>
    refine .done fun i' value' stop' hi' hat' => ?_
    obtain ⟨i, value, stop, rfl, hat⟩ := hback hat'
    exact none i value stop (hφ.le_iff_le.mp hi') hat
  | @next n hit hits le none item rest ih =>
    refine .next (by rw [hstart]; exact hφ.monotone le) (fun i' value' stop' hi' hlt hat' => ?_)
      (by rw [hstart, hstop]; exact hitem hit item) (by rw [hstop]; exact ih)
    obtain ⟨i, value, stop, rfl, hat⟩ := hback hat'
    rw [hstart] at hlt
    exact none i value stop (hφ.le_iff_le.mp hi') (hφ.lt_iff_lt.mp hlt) hat

end Leftmost

/-! ## The walk finds the leftmost list -/

def charBefore (text : List Char) (i : Nat) : Option Char := (text.take i).getLast?

/-- The reader finds an item at an offset, where it sees the character before it and the text from
there on. All that is said of a scan is said in terms of `ItemAt`, and each reader has a lemma that
spells it out in terms of the text. -/
def ItemAt (read : Reader α) (text : List Char) (i : Nat) (value : α) (stop : Nat) : Prop :=
  i < text.length ∧
    ∃ size, read (charBefore text i) (text.drop i) = some (value, size) ∧ stop = i + size

/-- Every item has at least one character. It is what a reader owes to the scan, which would stand
still otherwise, and is proved beside each of them (`advances_readHeader`, `advances_readWord`,
`advances_readCallHead`). -/
def Advances (read : Reader α) : Prop :=
  ∀ ⦃before cs value size⦄, read before cs = some (value, size) → 0 < size

theorem ItemAt.lt {read : Reader α} (hread : Advances read) {text : List Char} {i stop : Nat}
    {value : α} (h : ItemAt read text i value stop) : i < stop := by
  obtain ⟨-, size, hsize, rfl⟩ := h
  have := hread hsize
  omega

theorem ItemAt.unique {read : Reader α} {text : List Char} {i stop stop' : Nat} {value value' : α}
    (h : ItemAt read text i value stop) (h' : ItemAt read text i value' stop') :
    value = value' ∧ stop = stop' := by
  obtain ⟨-, size, hsize, rfl⟩ := h
  obtain ⟨-, size', hsize', rfl⟩ := h'
  rw [hsize] at hsize'
  obtain ⟨rfl, rfl⟩ := Prod.mk.inj (Option.some.inj hsize')
  exact ⟨rfl, rfl⟩

/-- At the seam of a text, an item is what the reader finds in the second half behind the last
character of the first. This is why a scan over a seam cannot forget what stands in front of it.
`ItemAt` is stated on offsets of the whole text for the same reason. -/
theorem itemAt_length {read : Reader α} {before cs : List Char} {value : α} {stop : Nat} :
    ItemAt read (before ++ cs) before.length value stop ↔
      cs ≠ [] ∧ ∃ size, read before.getLast? cs = some (value, size) ∧
        stop = before.length + size := by
  unfold ItemAt charBefore
  rw [List.take_left, List.drop_left, List.length_append, ← List.length_pos_iff]
  constructor
  · rintro ⟨hlt, hitem⟩
    exact ⟨by omega, hitem⟩
  · rintro ⟨hpos, hitem⟩
    exact ⟨by omega, hitem⟩

-- Induction on the rest of the text; the part already walked over is kept as `before`, so that the
-- character and the offset handed to the reader are those of the whole text.
theorem hitsFrom_leftmost {read : Reader α} (hread : Advances read) (cs : List Char) :
    ∀ (before : List Char) (skip : Nat),
      Leftmost (ItemAt read (before ++ cs)) (before.length + skip)
        (hitsFrom read before.getLast? before.length skip cs) := by
  -- The induction is on what is left; `before` is what the scan has passed.
  induction cs with
  | nil =>
    intro before skip
    rw [hitsFrom]
    refine .done fun i value stop hi hitem => ?_
    have := hitem.1
    simp only [List.append_nil] at this
    omega
  | cons c cs ih =>
    intro before skip
    have hnext := ih (before ++ [c])
    simp only [List.append_assoc, List.singleton_append, List.length_append, List.length_singleton,
      List.getLast?_append, List.getLast?_singleton, Option.some_or] at hnext
    cases skip with
    | succ skip =>
      rw [hitsFrom, show before.length + (skip + 1) = before.length + 1 + skip by omega]
      exact hnext skip
    | zero =>
      rw [hitsFrom]
      split
      · rename_i value size hfound
        have hsize := hread hfound
        refine .next (by simp) (fun i _ _ hi hlt => absurd hi (by simp only at hlt; omega)) ?_ ?_
        · exact itemAt_length.mpr ⟨by simp, size, hfound, rfl⟩
        · have hrest := hnext (size - 1)
          rwa [show before.length + 1 + (size - 1) = before.length + size by omega] at hrest
      · rename_i hfound
        refine Leftmost.skip (fun value stop hitem => ?_) (hnext 0)
        obtain ⟨-, size, hsome, -⟩ := itemAt_length.mp hitem
        rw [hfound] at hsome
        cases hsome

/-- **The walk answers the leftmost list of items.** The proof follows `hitsFrom`: an offset without
an item is passed over by `Leftmost.skip`, and an item that is found is the first. -/
theorem hits_leftmost {read : Reader α} (hread : Advances read) (text : List Char) :
    Leftmost (ItemAt read text) 0 (hits read text) := by
  simpa [hits] using hitsFrom_leftmost hread text [] 0

/-! ## Scans over a seam

A character at which nothing starts and which no item holds cuts a scan in two. -/

def Hit.shifted (n : Nat) (hit : Hit α) : Hit α := ⟨n + hit.start, n + hit.stop, hit.value⟩

theorem hitsFrom_of_none {read : Reader α} {before : Option Char} {c : Char} {cs : List Char}
    (h : read before (c :: cs) = none) (offset : Nat) :
    hitsFrom read before offset 0 (c :: cs) = hitsFrom read (some c) (offset + 1) 0 cs := by
  rw [hitsFrom, h]

theorem hitsFrom_of_some {read : Reader α} {before : Option Char} {c : Char} {cs : List Char}
    {value : α} {size : Nat} (h : read before (c :: cs) = some (value, size)) (offset : Nat) :
    hitsFrom read before offset 0 (c :: cs) =
      ⟨offset, offset + size, value⟩ :: hitsFrom read (some c) (offset + 1) (size - 1) cs := by
  rw [hitsFrom, h]

theorem hitsFrom_shift (read : Reader α) (n : Nat) (cs : List Char) :
    ∀ (before : Option Char) (offset skip : Nat),
      hitsFrom read before (n + offset) skip cs =
        (hitsFrom read before offset skip cs).map (Hit.shifted n) := by
  induction cs with
  | nil =>
    intro before offset skip
    rw [hitsFrom, hitsFrom, List.map_nil]
  | cons c cs ih =>
    intro before offset skip
    cases skip with
    | succ skip =>
      rw [hitsFrom, hitsFrom, Nat.add_assoc]
      exact ih _ _ _
    | zero =>
      cases hread : read before (c :: cs) with
      | none =>
        rw [hitsFrom_of_none hread, hitsFrom_of_none hread, Nat.add_assoc]
        exact ih _ _ _
      | some found =>
        rw [hitsFrom_of_some hread, hitsFrom_of_some hread, List.map_cons, Nat.add_assoc,
          Nat.add_assoc, ih, Hit.shifted]

-- The reader looks at the rest of the text and would see what stands behind the seam; `hsame` says
-- that it does not mind, for every rest that the walk over `a` comes to.
theorem hitsFrom_append_seam {read : Reader α} {c : Char} {b : List Char}
    (hsize : ∀ {before cs value size}, read before cs = some (value, size) → size ≤ cs.length)
    (hnone : ∀ before, read before (c :: b) = none) (a : List Char)
    (hsame : ∀ cs, cs <:+ a → cs ≠ [] → ∀ before, read before (cs ++ c :: b) = read before cs) :
    ∀ (before : Option Char) (offset skip : Nat), skip ≤ a.length →
      hitsFrom read before offset skip (a ++ c :: b) =
        hitsFrom read before offset skip a ++
          hitsFrom read (some c) (offset + a.length + 1) 0 b := by
  induction a with
  | nil =>
    intro before offset skip hskip
    obtain rfl : skip = 0 := Nat.le_zero.mp hskip
    rw [List.nil_append, hitsFrom_of_none (hnone before), hitsFrom]
    rfl
  | cons x a ih =>
    intro before offset skip hskip
    have hrest := ih fun cs hcs => hsame cs (hcs.trans (List.suffix_cons x a))
    have hoffset : offset + (x :: a).length + 1 = offset + 1 + a.length + 1 := by
      rw [List.length_cons]
      omega
    rw [hoffset, List.cons_append]
    cases skip with
    | succ skip =>
      rw [hitsFrom, hitsFrom]
      exact hrest _ _ _ (Nat.le_of_succ_le_succ hskip)
    | zero =>
      have hhere := hsame (x :: a) (List.suffix_refl _) (by simp) before
      rw [List.cons_append] at hhere
      cases hfound : read before (x :: a) with
      | none =>
        rw [hitsFrom_of_none (hhere.trans hfound), hitsFrom_of_none hfound]
        exact hrest _ _ _ (Nat.zero_le _)
      | some found =>
        -- The item ends within `a`, so no more of `a` is passed over than there is.
        have hle := hsize hfound
        rw [List.length_cons] at hle
        rw [hitsFrom_of_some (hhere.trans hfound), hitsFrom_of_some hfound, List.cons_append,
          hrest _ _ _ (by omega)]

/-- **A scan over a seam is the scan before it and the scan behind it**, the latter as if the text
started there, if no item of the first half goes on into the second. `ofKind_append_statement` uses
it for a statement put in front of a text. -/
theorem hits_append_seam {read : Reader α} {a b : List Char} {c : Char}
    (hsize : ∀ {before cs value size}, read before cs = some (value, size) → size ≤ cs.length)
    (hnone : ∀ before, read before (c :: b) = none)
    (hfresh : ∀ cs, read (some c) cs = read none cs)
    (hsame : ∀ cs, cs <:+ a → cs ≠ [] → ∀ before, read before (cs ++ c :: b) = read before cs) :
    hits read (a ++ c :: b) = hits read a ++ (hits read b).map (Hit.shifted (a.length + 1)) := by
  have hstart : hitsFrom read (some c) 0 0 b = hitsFrom read none 0 0 b := by
    cases b with
    | nil => rw [hitsFrom, hitsFrom]
    | cons x b => rw [hitsFrom, hfresh, hitsFrom]
  have hbehind := hitsFrom_shift read (a.length + 1) b (some c) 0 0
  rw [hstart, Nat.add_zero] at hbehind
  unfold hits
  rw [hitsFrom_append_seam hsize hnone a hsame none 0 0 (Nat.zero_le _), Nat.zero_add, hbehind]

end Scan
end SpiceKit

import Mathlib.Data.List.Basic
import SpiceKit.Proofs.Source.Block

/-!
# Brace matching

`Source.closeFrom` walks with a depth. What it looks for is said here by counting alone:
`Closes depth cs` holds of a text that closes `depth` open braces with its last character and not
before, and `FirstBlock` cuts a text at its first opening brace and behind the brace that closes it.
**`closeFrom_zero_eq_some_iff`** says that the walk answers the end of the first block, and nothing
when there is none.

The second half is about a text that is part of another one. A block that is closed in the part ends
there, whatever follows; a block that is not ends behind it (`closeFrom_append_cases`). What stands
before a block has no say at all (`blockEnd_append`).
-/

set_option autoImplicit false

namespace SpiceKit
namespace Source

/-! ## Closing by count -/

/-- The text closes so many open braces, and does so with its last character. It says without a walk
when `closeFrom` at that depth ends, and where (`closeFrom_succ_eq_some_iff`). -/
structure Closes (depth : Nat) (cs : List Char) : Prop where
  balanced : cs.count '}' = depth + cs.count '{'
  still_open : ∀ p, p <+: cs → p ≠ cs → p.count '}' < depth + p.count '{'

/-- The first block of a text: nothing opens before it, and behind its opening brace stands what
closes it. The end of such a block is what the walk from depth zero answers
(`closeFrom_zero_eq_some_iff`). -/
structure FirstBlock (cs before inside after : List Char) : Prop where
  split : before ++ '{' :: (inside ++ after) = cs
  unopened : '{' ∉ before
  closes : Closes 1 inside

def depthAfter (c : Char) (depth : Nat) : Nat :=
  if c = '{' then depth + 1 else if c = '}' then depth - 1 else depth

theorem closes_zero_iff {cs : List Char} : Closes 0 cs ↔ cs = [] := by
  constructor
  · intro h
    by_contra hne
    have := h.still_open [] List.nil_prefix (Ne.symm hne)
    simp at this
  · rintro rfl
    refine ⟨rfl, fun p hp hne => ?_⟩
    exact absurd (List.prefix_nil.mp hp) hne

theorem not_closes_succ_nil (depth : Nat) : ¬ Closes (depth + 1) [] := by
  intro h
  have := h.balanced
  simp at this

/-- One character in front: what counts behind it is the depth that it leaves. Both the positive and
the negative answers of the walk are carried over a character with this. `depthAfter` is that depth. -/
theorem count_cons_iff (c : Char) (depth : Nat) (cs : List Char) :
    ((c :: cs).count '}' = depth + 1 + (c :: cs).count '{' ↔
      cs.count '}' = depthAfter c (depth + 1) + cs.count '{') ∧
    ((c :: cs).count '}' < depth + 1 + (c :: cs).count '{' ↔
      cs.count '}' < depthAfter c (depth + 1) + cs.count '{') := by
  unfold depthAfter
  by_cases hopen : c = '{'
  · subst hopen
    rw [List.count_cons_self, List.count_cons_of_ne (by decide), if_pos rfl]
    omega
  · by_cases hclose : c = '}'
    · subst hclose
      rw [List.count_cons_self, List.count_cons_of_ne (by decide), if_neg hopen, if_pos rfl]
      omega
    · rw [List.count_cons_of_ne hopen, List.count_cons_of_ne hclose, if_neg hopen, if_neg hclose]
      omega

theorem closes_cons_iff {c : Char} {depth : Nat} {cs : List Char} :
    Closes (depth + 1) (c :: cs) ↔ Closes (depthAfter c (depth + 1)) cs := by
  constructor
  · intro h
    refine ⟨(count_cons_iff c depth cs).1.mp h.balanced, fun p hp hne => ?_⟩
    refine (count_cons_iff c depth p).2.mp (h.still_open (c :: p) ?_ ?_)
    · exact List.prefix_cons_inj c |>.mpr hp
    · simpa using hne
  · intro h
    refine ⟨(count_cons_iff c depth cs).1.mpr h.balanced, fun p hp hne => ?_⟩
    cases p with
    | nil => simp
    | cons a p =>
      obtain ⟨rfl, htail⟩ := List.cons_prefix_cons.mp hp
      refine (count_cons_iff a depth p).2.mpr (h.still_open p htail ?_)
      simpa using hne

/-! ## The walk closes what is open -/

theorem closeFrom_succ_cons (depth offset : Nat) (c : Char) (cs : List Char) :
    closeFrom (depth + 1) offset (c :: cs) =
      if depthAfter c (depth + 1) = 0 then some (offset + 1)
      else closeFrom (depthAfter c (depth + 1)) (offset + 1) cs := by
  rw [closeFrom]
  unfold depthAfter
  by_cases hopen : c = '{'
  · simp [hopen]
  · by_cases hclose : c = '}'
    · simp [hclose]
    · simp [hopen, hclose]

theorem exists_closes_cons_iff {c : Char} {cs : List Char} {depth offset stop : Nat} :
    (∃ inside rest, inside ++ rest = c :: cs ∧ Closes (depth + 1) inside ∧
        stop = offset + inside.length) ↔
      ∃ inside rest, inside ++ rest = cs ∧ Closes (depthAfter c (depth + 1)) inside ∧
        stop = offset + 1 + inside.length := by
  constructor
  · rintro ⟨inside, rest, hsplit, hcloses, rfl⟩
    cases inside with
    | nil => exact absurd hcloses (not_closes_succ_nil depth)
    | cons a inside =>
      obtain ⟨rfl, htail⟩ := List.cons.inj hsplit
      refine ⟨inside, rest, htail, closes_cons_iff.mp hcloses, ?_⟩
      rw [List.length_cons]
      omega
  · rintro ⟨inside, rest, rfl, hcloses, rfl⟩
    refine ⟨c :: inside, rest, rfl, closes_cons_iff.mpr hcloses, ?_⟩
    rw [List.length_cons]
    omega

theorem closeFrom_succ_eq_some_iff (cs : List Char) :
    ∀ {depth offset stop : Nat}, closeFrom (depth + 1) offset cs = some stop ↔
      ∃ inside rest, inside ++ rest = cs ∧ Closes (depth + 1) inside ∧
        stop = offset + inside.length := by
  induction cs with
  | nil =>
    intro depth offset stop
    rw [closeFrom]
    constructor
    · intro h
      cases h
    · rintro ⟨inside, rest, hsplit, hcloses, -⟩
      rw [(List.append_eq_nil_iff.mp hsplit).1] at hcloses
      exact absurd hcloses (not_closes_succ_nil depth)
  | cons c cs ih =>
    intro depth offset stop
    rw [closeFrom_succ_cons, exists_closes_cons_iff]
    -- At depth zero the walk is over; otherwise the induction goes on from the new depth.
    cases hdepth : depthAfter c (depth + 1) with
    | zero =>
      rw [if_pos rfl, Option.some.injEq]
      constructor
      · rintro rfl
        exact ⟨[], cs, rfl, closes_zero_iff.mpr rfl, rfl⟩
      · rintro ⟨inside, rest, -, hcloses, rfl⟩
        rw [closes_zero_iff.mp hcloses, List.length_nil]
    | succ depth' =>
      rw [if_neg (Nat.succ_ne_zero depth')]
      exact ih

theorem closeFrom_zero_of_not_mem {cs : List Char} (h : '{' ∉ cs) (offset : Nat) :
    closeFrom 0 offset cs = none := by
  have hskip := closeFrom_append h offset []
  rwa [List.append_nil, closeFrom] at hskip

/-- **The walk answers the end of the first block**, and nothing where there is none. `FirstBlock`
says where that is, by counting braces. -/
theorem closeFrom_zero_eq_some_iff {offset stop : Nat} {cs : List Char} :
    closeFrom 0 offset cs = some stop ↔ ∃ before inside after,
      FirstBlock cs before inside after ∧ stop = offset + (before.length + 1 + inside.length) := by
  constructor
  · intro h
    by_cases hopen : '{' ∈ cs
    · obtain ⟨before, rest, rfl, hbefore⟩ := List.eq_append_cons_of_mem hopen
      rw [closeFrom_append hbefore, closeFrom, if_pos rfl] at h
      obtain ⟨inside, after, rfl, hcloses, rfl⟩ := (closeFrom_succ_eq_some_iff rest).mp h
      exact ⟨before, inside, after, ⟨rfl, hbefore, hcloses⟩, by omega⟩
    · rw [closeFrom_zero_of_not_mem hopen] at h
      cases h
  · rintro ⟨before, inside, after, ⟨rfl, hbefore, hcloses⟩, rfl⟩
    rw [closeFrom_append hbefore, closeFrom, if_pos rfl]
    exact (closeFrom_succ_eq_some_iff _).mpr ⟨inside, after, rfl, hcloses, by omega⟩

/-! ## A text that goes on -/

/-- Either the walk ends within the first part, and then the second has no influence, or it comes to
the second part at some depth, with which it goes on there. Comparing a text with a longer one
starts from these two cases (`blockEnd_append_cases`). -/
theorem closeFrom_append_cases (cs rest : List Char) : ∀ depth offset : Nat,
    (∃ stop, closeFrom depth offset cs = some stop ∧
      closeFrom depth offset (cs ++ rest) = some stop) ∨
    (closeFrom depth offset cs = none ∧ ∃ depth',
      closeFrom depth offset (cs ++ rest) = closeFrom depth' (offset + cs.length) rest) := by
  induction cs with
  | nil =>
    intro depth offset
    exact Or.inr ⟨by rw [closeFrom], depth, rfl⟩
  | cons c cs ih =>
    intro depth offset
    have hlength : offset + (c :: cs).length = offset + 1 + cs.length := by
      rw [List.length_cons]
      omega
    rw [hlength, List.cons_append]
    cases depth with
    | zero =>
      rw [closeFrom, closeFrom]
      exact ih _ _
    | succ depth =>
      rw [closeFrom_succ_cons, closeFrom_succ_cons]
      split
      · exact Or.inl ⟨offset + 1, rfl, rfl⟩
      · exact ih _ _

theorem closeFrom_of_not_mem {cs : List Char} (h : '}' ∉ cs) (depth offset : Nat) :
    closeFrom depth offset cs = none := by
  induction cs generalizing depth offset with
  | nil => rw [closeFrom]
  | cons c cs ih =>
    have hc : c ≠ '}' := fun heq => h (by simp [heq])
    have hcs : '}' ∉ cs := fun hmem => h (by simp [hmem])
    cases depth with
    | zero =>
      rw [closeFrom]
      exact ih hcs _ _
    | succ depth =>
      rw [closeFrom, if_neg hc]
      split
      · exact ih hcs _ _
      · exact ih hcs _ _

theorem closeFrom_append_of_not_mem {rest : List Char} (h : '}' ∉ rest) (depth offset : Nat)
    (cs : List Char) : closeFrom depth offset (cs ++ rest) = closeFrom depth offset cs := by
  rcases closeFrom_append_cases cs rest depth offset with ⟨stop, hhere, hwhole⟩ | ⟨hhere, d, hwhole⟩
  · rw [hhere, hwhole]
  · rw [hhere, hwhole, closeFrom_of_not_mem h]

/-- **A block ends within a part of the text exactly when it is closed there**; otherwise it ends
behind that part. For a header this tells apart the two ways in which a declaration can stop
(`stop_covers_header`). -/
theorem blockEnd_append_cases (source : Source) {start : Nat} {part rest : List Char}
    (hsplit : source.text.drop start = part ++ rest) (hstart : start ≤ source.endOffset) :
    (closeFrom 0 start part = some (source.blockEnd start)) ∨
      (closeFrom 0 start part = none ∧ start + part.length ≤ source.blockEnd start) := by
  rw [blockEnd_eq, clamp_eq_self hstart, hsplit]
  rcases closeFrom_append_cases part rest 0 start with ⟨stop, hhere, hwhole⟩ | ⟨hhere, d, hwhole⟩
  · rw [hhere, hwhole, Option.getD_some]
    exact Or.inl rfl
  · refine Or.inr ⟨hhere, ?_⟩
    rw [hwhole]
    cases hclose : closeFrom d (start + part.length) rest with
    | none =>
      have hlength := congrArg List.length hsplit
      rw [List.length_drop, List.length_append] at hlength
      unfold endOffset at hstart
      simp only [Option.getD_none, endOffset]
      omega
    | some stop =>
      have := (closeFrom_bounds _ hclose).1
      simp only [Option.getD_some]
      omega

/-! ## A text that starts later -/

theorem closeFrom_shift (n : Nat) (cs : List Char) : ∀ depth offset : Nat,
    closeFrom depth (n + offset) cs = (closeFrom depth offset cs).map (n + ·) := by
  induction cs with
  | nil =>
    intro depth offset
    rw [closeFrom, closeFrom, Option.map_none]
  | cons c cs ih =>
    intro depth offset
    cases depth with
    | zero =>
      rw [closeFrom, closeFrom, Nat.add_assoc]
      exact ih _ _
    | succ depth =>
      rw [closeFrom_succ_cons, closeFrom_succ_cons, Nat.add_assoc]
      split
      · rfl
      · exact ih _ _

/-- **A block does not look back**: text in front of it moves its end and changes nothing else. A
statement put in front of a text moves all ranges alike for this reason. It is `closeFrom_shift` on
offsets of a document. -/
theorem blockEnd_append (front : List Char) {back : List Char} {start : Nat}
    (h : start ≤ back.length) :
    (ofText (front ++ back)).blockEnd (front.length + start : Nat) =
      front.length + (ofText back).blockEnd start := by
  have hwhole : front.length + start ≤ (front ++ back).length := by
    rw [List.length_append]
    omega
  rw [blockEnd_eq, blockEnd_eq, clamp_eq_self hwhole, clamp_eq_self h]
  simp only [ofText, endOffset, List.drop_length_add_append, closeFrom_shift, List.length_append]
  cases closeFrom 0 start (back.drop start) with
  | none => rfl
  | some stop => rfl

end Source
end SpiceKit

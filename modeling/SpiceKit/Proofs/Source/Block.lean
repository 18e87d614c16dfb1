import SpiceKit.Source.Block

/-!
# Where a block ends

Bounds on `Source.blockEnd`. A block that opens behind some text ends behind that text, and no block
ends behind the document: the two facts that keep the range of a declaration around its name.

`closeFrom_bounds` is the induction behind both; `blockEnd_eq` then speaks of offsets in the
document. Which brace it is that ends a block is said in `Proofs/Source/Matching`, by the balance of
braces and without a walk.
-/

set_option autoImplicit false

namespace SpiceKit
namespace Source

theorem closeFrom_cons {c : Char} (hopen : c ≠ '\x7b') (hclose : c ≠ '\x7d') (depth offset : Nat)
    (cs : List Char) : closeFrom depth offset (c :: cs) = closeFrom depth (offset + 1) cs := by
  cases depth with
  | zero => rw [closeFrom, if_neg hopen]
  | succ depth => rw [closeFrom, if_neg hopen, if_neg hclose]

/-- Before the block opens, text without an opening brace is walked over unchanged. So `closeFrom`
at depth zero may be taken up anywhere before the opening brace. -/
theorem closeFrom_append {skipped : List Char} (h : '\x7b' ∉ skipped) (offset : Nat)
    (cs : List Char) :
    closeFrom 0 offset (skipped ++ cs) = closeFrom 0 (offset + skipped.length) cs := by
  induction skipped generalizing offset with
  | nil => rfl
  | cons c skipped ih =>
    have hc : c ≠ '\x7b' := fun heq => h (by simp [heq])
    rw [List.cons_append, closeFrom, if_neg hc, ih (fun hmem => h (by simp [hmem]))]
    rw [List.length_cons, Nat.add_assoc, Nat.add_comm 1]

theorem closeFrom_bounds (cs : List Char) :
    ∀ {depth offset stop : Nat}, closeFrom depth offset cs = some stop →
      offset < stop ∧ stop ≤ offset + cs.length := by
  induction cs with
  | nil =>
    intro depth offset stop h
    rw [closeFrom] at h
    cases h
  | cons c cs ih =>
    intro depth offset stop h
    -- The walk ends with this character, or goes on behind it at some depth.
    have hstep : stop = offset + 1 ∨ ∃ depth', closeFrom depth' (offset + 1) cs = some stop := by
      cases depth with
      | zero => exact Or.inr ⟨_, h⟩
      | succ depth =>
        rw [closeFrom] at h
        split at h
        · exact Or.inr ⟨_, h⟩
        · split at h
          · split at h
            · exact Or.inl (Option.some.inj h).symm
            · exact Or.inr ⟨_, h⟩
          · exact Or.inr ⟨_, h⟩
    rw [List.length_cons]
    rcases hstep with rfl | ⟨depth', h'⟩
    · omega
    · have := ih h'
      omega

theorem clamp_eq_self {source : Source} {offset : Nat} (h : offset ≤ source.endOffset) :
    source.clamp offset = offset := by
  unfold clamp
  omega

theorem blockEnd_eq (source : Source) (offset : Int) :
    source.blockEnd offset = (closeFrom 0 (source.clamp offset)
      (source.text.drop (source.clamp offset))).getD source.endOffset := rfl

theorem blockEnd_le (source : Source) (offset : Int) :
    source.blockEnd offset ≤ source.endOffset := by
  rw [blockEnd_eq]
  cases h : closeFrom 0 (source.clamp offset) (source.text.drop (source.clamp offset)) with
  | none => exact Nat.le_refl _
  | some stop =>
    have hbounds := closeFrom_bounds _ h
    have hclamp : source.clamp offset ≤ source.text.length := Nat.min_le_right _ _
    rw [List.length_drop] at hbounds
    simp only [Option.getD_some, endOffset]
    omega

/-- **A block ends behind whatever stands before its opening brace.** For a declaration that is its
name, so that its range covers the name (`name_le_stop`). -/
theorem le_blockEnd (source : Source) {start : Nat} {skipped rest : List Char}
    (hsplit : source.text.drop start = skipped ++ rest) (hstart : start ≤ source.endOffset)
    (h : '\x7b' ∉ skipped) : start + skipped.length ≤ source.blockEnd start := by
  have hlength : start + (skipped ++ rest).length = source.endOffset := by
    rw [← hsplit, List.length_drop]
    unfold endOffset at hstart ⊢
    omega
  rw [blockEnd_eq, clamp_eq_self hstart, hsplit, closeFrom_append h]
  cases hclose : closeFrom 0 (start + skipped.length) rest with
  | none =>
    rw [List.length_append] at hlength
    simp only [Option.getD_none]
    omega
  | some stop =>
    have := (closeFrom_bounds _ hclose).1
    simp only [Option.getD_some]
    omega

end Source
end SpiceKit

import SpiceKit.Proofs.Declaration.Order
import SpiceKit.Proofs.Text.LineEnds

/-!
# Declarations do not depend on line ends

The same document with a carriage return before every line feed has the same declarations, each
moved to where its offsets have gone (**`declarations_withReturns`**).

A header is read by pieces that cannot tell the two documents apart, so it is read at corresponding
places and with corresponding length; gaps and parameter lists may run over line ends and get longer
by their carriage returns. A block ends at the corresponding brace. And since offsets keep their
order, putting the three kinds together is the same in both.
-/

set_option autoImplicit false

namespace SpiceKit

open Text

/-! ## Headers -/

namespace Header

theorem keepsReturns_afterClause? (keyword : String)
    (h : '\r' ∉ keyword.toList ∧ '\n' ∉ keyword.toList) :
    KeepsReturns (afterClause? keyword.toList) := by
  rw [funext (afterClause?_eq keyword)]
  exact keepsReturns_dropGap?.andThen ((keepsReturns_dropText? _ h).andThen
    (keepsReturns_dropGap?.andThen keepsReturns_takeName?))

theorem keepsReturns_afterListed? : KeepsReturns afterListed? := by
  rw [funext afterListed?_eq]
  exact keepsReturns_dropGap.andThen ((keepsReturns_dropText? _ (by decide)).andThen
    (keepsReturns_dropGap.andThen keepsReturns_takeName?))

theorem afterList_withReturns (cs : List Char) :
    afterList (withReturns cs) = withReturns (afterList cs) := by
  fun_induction afterList cs with
  | case1 cs hnone => exact afterList_of_none (by rw [keepsReturns_afterListed?, hnone]; rfl)
  | case2 cs rest hsome hlt ih =>
    rw [afterList_of_some (by rw [keepsReturns_afterListed?, hsome]; rfl), ih]

theorem keepsReturns_afterParameters? : KeepsReturns afterParameters? := by
  rw [funext afterParameters?_eq]
  exact keepsReturns_dropGap.andThen ((keepsReturns_dropText? _ (by decide)).andThen
    ((KeepsReturns.of_dropWhile (by decide)).andThen (keepsReturns_dropText? _ (by decide))))

theorem keepsReturns_afterResult : KeepsReturns fun cs => some (afterResult cs) := by
  have hresult := (keepsReturns_dropGap.andThen ((keepsReturns_dropText? "->".toList
    (by decide)).andThen (keepsReturns_dropGap.andThen keepsReturns_takeName?))).optional
  unfold afterResult
  simpa only [Option.map_bind, Function.comp_def, Option.bind_some] using hresult

def carried (cs : List Char) (header : Header) : Header :=
  { header with nameAt := moved cs header.nameAt, size := moved cs header.size }

end Header

namespace Kind

open Header

theorem keepsReturns_opened? (kind : Kind) : KeepsReturns kind.opened? := by
  have hmodifiers : KeepsReturns fun cs => some (afterModifier kind.modifiers cs) :=
    (keepsReturns_dropModifier? (by cases kind <;> decide)).optional
  exact hmodifiers.andThen ((keepsReturns_dropText? _ (by cases kind <;> decide)).andThen
    keepsReturns_dropGap?)

theorem keepsReturns_closed? (kind : Kind) : KeepsReturns kind.closed? := by
  cases kind with
  | cls =>
    have hlist : KeepsReturns fun cs => some (afterList cs) :=
      fun cs => congrArg some (afterList_withReturns cs)
    have hextends := (keepsReturns_afterClause? "extends" (by decide)).optional
    have himplements :=
      ((keepsReturns_afterClause? "implements" (by decide)).andThen hlist).optional
    rw [closed?_cls]
    exact hextends.andThen himplements
  | interface => exact fun cs => rfl
  | function =>
    rw [closed?_function]
    exact keepsReturns_afterParameters?.andThen keepsReturns_afterResult

theorem header?_withReturns (kind : Kind) (cs : List Char) :
    kind.header? (withReturns cs) = (kind.header? cs).map (carried cs) := by
  simp only [header?_eq, Option.bind_eq_bind, Option.pure_def, keepsReturns_opened? kind cs]
  cases hopened : kind.opened? cs with
  | none => rfl
  | some atName =>
    simp only [Option.map_some, Option.bind_some, takeName?_withReturns]
    cases hname : takeName? atName with
    | none => rfl
    | some found =>
      simp only [Option.map_some, Option.bind_some, keepsReturns_closed? kind found.2]
      cases hclosed : kind.closed? found.2 with
      | none => rfl
      | some behind =>
        -- Both lengths are those of what has been taken off the front.
        obtain ⟨before, -, hbefore⟩ := kind.takes_opening.sound hopened
        obtain ⟨-, hrest, -⟩ := takeName?_eq_some_iff.mp hname
        obtain ⟨after, -, hafter⟩ := kind.takes_closing.sound hclosed
        have hsuffix : behind <:+ cs :=
          ⟨before ++ (found.1 ++ after), by rw [← hbefore, ← hrest, ← hafter]; simp⟩
        simp only [Option.map_some, Option.bind_some, carried,
          length_sub_withReturns ⟨before, hbefore⟩, length_sub_withReturns hsuffix]

theorem header?_break (kind : Kind) (cs : List Char) : kind.header? ('\n' :: cs) = none :=
  kind.header?_eq_none_of_stops (stops_cons.mpr (by decide))

end Kind

namespace Declaration

theorem stretches_readHeader (kind : Kind) : Stretches (readHeader kind) Header.carried where
  same := by
    intro before cs
    unfold readHeader
    rw [Kind.header?_withReturns]
    cases before.any isWordChar with
    | true => rfl
    | false =>
      simp only [Bool.false_eq_true, if_false, Option.map_map]
      rfl
  none_at_break := by
    intro before cs
    unfold readHeader
    rw [Kind.header?_break]
    split
    · rfl
    · rfl

end Declaration

/-! ## Blocks -/

namespace Source

-- Induction on the rest of the text; the part already walked over is kept as `before`, for the
-- offsets are those of the whole text.
theorem closeFrom_withReturns (cs : List Char) : ∀ (before : List Char) (depth : Nat),
    closeFrom depth (withReturns before).length (withReturns cs) =
      (closeFrom depth before.length cs).map (moved (before ++ cs)) := by
  induction cs with
  | nil =>
    intro before depth
    rw [withReturns_nil, closeFrom, closeFrom, Option.map_none]
  | cons c cs ih =>
    intro before depth
    -- `before` is what the walk has passed; the offset is its length, with returns and without.
    have hnext := ih (before ++ [c])
    rw [withReturns_append, List.append_assoc, List.singleton_append] at hnext
    simp only [List.length_append, List.length_singleton] at hnext
    by_cases hc : c = '\n'
    · subst hc
      rw [withReturns_break, closeFrom_cons (by decide) (by decide),
        closeFrom_cons (by decide) (by decide), closeFrom_cons (by decide) (by decide)]
      exact hnext depth
    · rw [withReturns_cons hc, withReturns_nil, List.length_singleton] at hnext
      rw [withReturns_cons hc]
      cases depth with
      | zero =>
        rw [closeFrom, closeFrom]
        exact hnext _
      | succ depth =>
        rw [closeFrom, closeFrom]
        split
        · exact hnext _
        · split
          · split
            · rw [Option.map_some, moved_append_succ hc]
            · exact hnext _
          · exact hnext _

theorem blockEnd_withReturns {text : List Char} {offset : Nat} (h : offset ≤ text.length) :
    (ofText (withReturns text)).blockEnd (moved text offset) =
      moved text ((ofText text).blockEnd offset) := by
  have hmoved : moved text offset ≤ (withReturns text).length := by
    rw [← moved_length]
    exact (moved_strictMono text).monotone h
  have hclose := closeFrom_withReturns (text.drop offset) (text.take offset) 0
  rw [List.take_append_drop, ← moved_eq_length h, List.length_take, Nat.min_eq_left h] at hclose
  rw [blockEnd_eq, blockEnd_eq, clamp_eq_self hmoved, clamp_eq_self h]
  simp only [ofText, endOffset, drop_moved h, hclose]
  cases closeFrom 0 offset (text.drop offset) with
  | none => exact (moved_length text).symm
  | some stop => rfl

end Source

/-! ## Declarations -/

namespace Declaration

/-- A declaration of a document, found with the other line ends: each of its three offsets is where
`Text.moved` takes it, and name and kind are the same. -/
def moved (text : List Char) (d : Declaration) : Declaration :=
  { d with
    start := Text.moved text d.start
    nameStart := Text.moved text d.nameStart
    stop := Text.moved text d.stop }

theorem ofKind_withReturns (text : List Char) (kind : Kind) :
    ofKind (.ofText (withReturns text)) kind = (ofKind (.ofText text) kind).map (moved text) := by
  unfold ofKind
  simp only [Source.ofText, hits_withReturns (advances_readHeader kind) (stretches_readHeader kind),
    List.map_map]
  refine List.map_congr_left fun hit hmem => ?_
  have hlt := ((Scan.hits_leftmost (advances_readHeader kind) text).item_of_mem hit hmem).1
  simp only [Function.comp_apply, ofHit, moved, movedHit, Header.carried, Declaration.mk.injEq,
    true_and]
  exact ⟨(moved_add text _ _).symm, Source.blockEnd_withReturns hlt.le⟩

end Declaration

/-- **The declarations of a document do not depend on its line ends**: they are the same, at the
corresponding places. Places correspond by `moved`, which keeps their order, so that sorting gives
the same list. -/
theorem Source.declarations_withReturns (text : List Char) :
    (Source.ofText (withReturns text)).declarations =
      (Source.ofText text).declarations.map (Declaration.moved text) := by
  unfold Source.declarations
  rw [funext (Declaration.ofKind_withReturns text), ← List.map_flatMap]
  refine (List.map_mergeSort fun a _ b _ => ?_).symm
  exact decide_eq_decide.mpr (moved_strictMono text).le_iff_le.symm

end SpiceKit

import SpiceKit.Assist
import SpiceKit.Proofs.Source.Word

/-!
# The head of a call

The head of a call is a name, blanks if there are any, and an opening parenthesis. Signature help
scans a line for heads and answers for the first one at the place whose callable is known, and
`print` is all that is known. **`signatureAt_print_head`** says when that is.

The scan finds every head of a line (`mem_hits_readCallHead_iff`). It starts none in the middle of a
word, since the head would have been found from the front of the word, and no head hides another: it
has one parenthesis and its last character is that one. So the name of a head is a whole word
(`sprint(` is no head of `print`), and where two heads meet at one column, as in `foo(print(`, the
second one is found there as well.
-/

set_option autoImplicit false

namespace SpiceKit
namespace Assist

open Scan Text

/-! ## Heads of calls -/

/-- The head of a call in a line: a maximal run of word characters, then blanks, then an opening
parenthesis. `mem_hits_readCallHead_iff` says that the scan of `signatureAt` finds just these. -/
structure Head (text : List Char) (start stop paren : Nat) : Prop where
  run : Run text start stop
  le : stop ≤ paren
  gap : (text.drop stop).take (paren - stop) ∈ blanks
  opened : text[paren]? = some '('

theorem stops_isWordChar_gap {g rest : List Char} (hg : g ∈ blanks) :
    Stops isWordChar (g ++ '(' :: rest) := by
  cases g with
  | nil => exact stops_cons.mpr (by decide)
  | cons c g => exact (stops_isWordChar_of_mem_blanks hg).append (by simp) _

theorem readCallHead_eq_some_iff {before : Option Char} {cs name : List Char} {size : Nat} :
    readCallHead before cs = some (name, size) ↔
      ∃ g rest, name ∈ names ∧ g ∈ blanks ∧ cs = name ++ (g ++ '(' :: rest) ∧
        size = name.length + g.length + 1 := by
  simp only [readCallHead, Option.bind_eq_bind, Option.bind_eq_some_iff]
  constructor
  · rintro ⟨⟨found, behind⟩, hname, hhead⟩
    obtain ⟨hn, rfl, -⟩ := takeName?_eq_some_iff.mp hname
    simp only at hhead
    split at hhead
    · rename_i rest hgap
      obtain ⟨g, hg, rfl, -⟩ := dropGap_eq_iff.mp hgap
      obtain ⟨rfl, rfl⟩ := Prod.mk.inj (Option.some.inj hhead)
      refine ⟨g, rest, hn, hg, rfl, ?_⟩
      simp only [List.length_append, List.length_cons]
      omega
    · cases hhead
  · rintro ⟨g, rest, hn, hg, rfl, rfl⟩
    have hgap : dropGap (g ++ '(' :: rest) = '(' :: rest :=
      dropGap_eq_iff.mpr ⟨g, hg, rfl, stops_cons.mpr (by decide)⟩
    refine ⟨_, takeName?_eq_some_iff.mpr ⟨hn, rfl, stops_isWordChar_gap hg⟩, ?_⟩
    simp only [hgap, List.length_append, List.length_cons, Option.some.injEq, Prod.mk.injEq,
      true_and]
    omega

theorem advances_readCallHead : Advances readCallHead := by
  intro before cs name size h
  obtain ⟨g, rest, -, -, -, rfl⟩ := readCallHead_eq_some_iff.mp h
  exact Nat.succ_pos _

theorem itemAt_readCallHead_iff {line name : List Char} {i stop : Nat} :
    ItemAt readCallHead line i name stop ↔
      ∃ g rest, name ∈ names ∧ g ∈ blanks ∧ line.drop i = name ++ (g ++ '(' :: rest) ∧
        stop = i + (name.length + g.length + 1) := by
  unfold ItemAt
  simp only [readCallHead_eq_some_iff]
  constructor
  · rintro ⟨-, size, ⟨g, rest, hn, hg, hsplit, rfl⟩, rfl⟩
    exact ⟨g, rest, hn, hg, hsplit, rfl⟩
  · rintro ⟨g, rest, hn, hg, hsplit, rfl⟩
    refine ⟨?_, _, ⟨g, rest, hn, hg, hsplit, rfl⟩, rfl⟩
    have hlength := congrArg List.length hsplit
    simp only [List.length_drop, List.length_append, List.length_cons] at hlength
    omega

/-! ## Where heads start -/

section
variable {text name : List Char} {i stop : Nat}

theorem isWordAt_of_itemAt_head (h : ItemAt readCallHead text i name stop) :
    isWordAt text i = true := by
  obtain ⟨g, rest, hn, -, hsplit, -⟩ := itemAt_readCallHead_iff.mp h
  have hpos := List.length_pos_iff.mpr hn.1
  rw [← Nat.add_zero i, ← isWordAt_drop, hsplit, isWordAt_append_left hpos]
  exact isWordAt_of_mem_names hn hpos

/-- A head that starts behind a word character can be read from there. Going back as far as one can,
one comes to the front of the word, where the scan has found it. The scan walks from the left, so
`mem_hits_readCallHead_iff` needs this for the heads that it does not pass over. -/
theorem itemAt_head_back (h : ItemAt readCallHead text (i + 1) name stop)
    (hword : isWordAt text i = true) : ∃ name stop, ItemAt readCallHead text i name stop := by
  obtain ⟨g, rest, hn, hg, hsplit, -⟩ := itemAt_readCallHead_iff.mp h
  have hlt := lt_length_of_isWordAt hword
  have hc : isWordChar text[i] = true := by
    unfold isWordAt at hword
    rwa [List.getElem?_eq_getElem hlt, Option.any_some] at hword
  refine ⟨text[i] :: name, _, itemAt_readCallHead_iff.mpr ⟨g, rest, ⟨by simp, ?_⟩, hg, ?_, rfl⟩⟩
  · exact List.forall_mem_cons.mpr ⟨hc, hn.2⟩
  · rw [List.drop_eq_getElem_cons hlt, hsplit, List.cons_append]

theorem boundary_stop_of_itemAt_head (h : ItemAt readCallHead text i name stop) :
    Boundary text stop := by
  obtain ⟨g, rest, -, -, hsplit, rfl⟩ := itemAt_readCallHead_iff.mp h
  intro j hj
  obtain rfl : j = i + (name.length + g.length) := by omega
  rw [← isWordAt_drop, hsplit, ← List.append_assoc, ← List.length_append,
    ← Nat.add_zero (name ++ g).length, isWordAt_append_right]
  exact (by decide : isWordChar '(' = false)

end

theorem drop_behind {line a b : List Char} {start : Nat} (h : line.drop start = a ++ b) :
    line.drop (start + a.length) = b := by
  rw [← List.drop_drop, h, List.drop_left]

theorem head_iff {line : List Char} {start stop paren : Nat} :
    Head line start stop paren ↔
      Boundary line start ∧ ∃ name g rest, name ∈ names ∧ g ∈ blanks ∧
        line.drop start = name ++ (g ++ '(' :: rest) ∧ stop = start + name.length ∧
        paren = stop + g.length := by
  constructor
  · rintro ⟨hrun, hle, hgap, hopened⟩
    obtain ⟨name, rest, hn, hsplit, hrest⟩ :=
      exists_name_of_isWordAt (hrun.inside _ (Nat.le_refl _) hrun.lt)
    have hlt := hrun.lt
    -- The name that is read there is a run too, so it ends where the given one does.
    obtain ⟨-, rfl⟩ := hrun.eq_of_touch (run_of_split hn hsplit hrun.before hrest) (by omega)
      (by omega)
    obtain ⟨hparen, hchar⟩ := List.getElem?_eq_some_iff.mp hopened
    refine ⟨hrun.before, name, _, line.drop (paren + 1), hn, hgap, ?_, rfl, ?_⟩
    · rw [hsplit, ← drop_behind hsplit, ← hchar, ← List.drop_eq_getElem_cons hparen]
      congr 1
      conv_lhs => rw [← List.take_append_drop (paren - (start + name.length)) (line.drop _)]
      rw [List.drop_drop, Nat.add_sub_cancel' hle]
    · rw [List.length_take, List.length_drop]
      omega
  · rintro ⟨hbound, name, g, rest, hn, hg, hsplit, rfl, rfl⟩
    have hbehind := drop_behind hsplit
    refine ⟨run_of_split hn hsplit hbound (stops_isWordChar_gap hg), Nat.le_add_right _ _, ?_, ?_⟩
    · rw [hbehind, Nat.add_sub_cancel_left, List.take_left]
      exact hg
    · rw [← List.getElem?_drop, hbehind, List.getElem?_append_right (Nat.le_refl _), Nat.sub_self]
      rfl

theorem Head.item {line : List Char} {start stop paren : Nat} (h : Head line start stop paren) :
    ItemAt readCallHead line start ((line.drop start).take (stop - start)) (paren + 1) := by
  obtain ⟨-, name, g, rest, hn, hg, hsplit, rfl, rfl⟩ := head_iff.mp h
  rw [Nat.add_sub_cancel_left, hsplit, List.take_left]
  exact itemAt_readCallHead_iff.mpr ⟨g, rest, hn, hg, hsplit, by omega⟩

theorem exists_head_of_itemAt {line name : List Char} {start stop : Nat}
    (hbound : Boundary line start) (h : ItemAt readCallHead line start name stop) :
    ∃ behind paren, Head line start behind paren ∧ stop = paren + 1 ∧
      name = (line.drop start).take (behind - start) := by
  obtain ⟨g, rest, hn, hg, hsplit, rfl⟩ := itemAt_readCallHead_iff.mp h
  refine ⟨start + name.length, start + name.length + g.length,
    head_iff.mpr ⟨hbound, name, g, rest, hn, hg, hsplit, rfl, rfl⟩, by omega, ?_⟩
  rw [Nat.add_sub_cancel_left, hsplit, List.take_left]

theorem Head.start_eq_of_run {line : List Char} {start stop paren i j : Nat}
    (h : Head line start stop paren) (hrun : Run line i j) (hle : start ≤ i) (hle' : i ≤ paren) :
    start = i := by
  rcases Nat.lt_or_ge stop i with hbehind | htouch
  · have hword := hrun.inside i (Nat.le_refl i) hrun.lt
    obtain ⟨-, name, g, rest, -, hg, hsplit, rfl, rfl⟩ := head_iff.mp h
    obtain ⟨k, rfl⟩ := Nat.exists_eq_add_of_le hbehind.le
    rw [← isWordAt_drop, drop_behind hsplit] at hword
    rcases Nat.lt_or_eq_of_le (show k ≤ g.length by omega) with hlt | rfl
    · rw [isWordAt_append_left hlt, isWordAt_of_mem_blanks hg] at hword
      cases hword
    · rw [← Nat.add_zero g.length, isWordAt_append_right] at hword
      exact absurd hword (by simp [isWordAt, show isWordChar '(' = false by decide])
  · exact (h.run.eq_of_touch hrun htouch (by have := hrun.lt; omega)).1

/-- **The scan finds the heads of a line and nothing else.** `Head` says what a head is without a
scan. -/
theorem mem_hits_readCallHead_iff {line : List Char} {hit : Hit (List Char)} :
    hit ∈ hits readCallHead line ↔
      ∃ stop paren, Head line hit.start stop paren ∧ hit.stop = paren + 1 ∧
        hit.value = (line.drop hit.start).take (stop - hit.start) := by
  have hscan := hits_leftmost advances_readCallHead line
  refine hscan.mem_iff (fun hit => ∃ stop paren, Head line hit.start stop paren ∧
      hit.stop = paren + 1 ∧ hit.value = (line.drop hit.start).take (stop - hit.start))
    (fun h h' => h.unique h') ?_ ?_ fun hit hmem => ?_
  · rintro hit ⟨stop, paren, hhead, hstop, hvalue⟩
    exact hstop ▸ hvalue ▸ hhead.item
  · rintro hit other ⟨stop, paren, hhead, -, -⟩ ⟨stop', paren', hhead', hstop', -⟩ hle hlt
    exact hhead'.start_eq_of_run hhead.run hle (by omega)
  · apply exists_head_of_itemAt _ (hscan.item_of_mem hit hmem)
    exact boundary_of_leftmost isWordAt_of_itemAt_head itemAt_head_back
      (fun hitem => Or.inl (boundary_stop_of_itemAt_head hitem)) hscan
      (Or.inl fun j hj => by omega) hit hmem

/-! ## Signatures -/

theorem signature?_eq_some_iff {name : String} {signature : Signature} :
    signature? name = some signature ↔ name = "print" ∧ signature = printSignature := by
  unfold signature?
  split
  · rw [Option.some.injEq, eq_comm]
    exact (and_iff_right rfl).symm
  · rename_i hname
    constructor
    · intro h
      cases h
    · rintro ⟨rfl, -⟩
      exact absurd rfl hname

/-- The head of a call of that name touches a place: the column is in it or at one of its ends. It
says of a place what `Head` says of a line. -/
def HeadTouches (source : Source) (name : String) (position : Position) : Prop :=
  ∃ (i : Nat) (line : List Char) (start stop paren : Nat), position.line = i ∧
    source.lines[i]? = some line ∧ Head line start stop paren ∧
    name.toList = (line.drop start).take (stop - start) ∧
    start ≤ position.column ∧ position.column ≤ paren + 1

theorem headTouches_iff {source : Source} {name : String} {position : Position} :
    HeadTouches source name position ↔
      ∃ hit ∈ hits readCallHead (source.lineText position.line),
        (hit.start ≤ position.column ∧ position.column ≤ hit.stop) ∧
          String.ofList hit.value = name := by
  constructor
  · rintro ⟨i, line, start, stop, paren, hline, hget, hhead, hname, hle, hle'⟩
    obtain ⟨before, after, hat⟩ := exists_lineAt_of_getElem?_lines hget
    rw [hline, Source.lineText_of_lineAt hat]
    refine ⟨⟨start, paren + 1, name.toList⟩, ?_, ⟨hle, by push_cast; exact hle'⟩, ?_⟩
    · exact mem_hits_readCallHead_iff.mpr ⟨stop, paren, hhead, rfl, hname⟩
    · exact String.ofList_toList
  · rintro ⟨hit, hmem, ⟨hle, hle'⟩, rfl⟩
    rcases source.lineText_cases position.line with hnil | ⟨i, hline, hget⟩
    · rw [hnil] at hmem
      cases hmem
    · obtain ⟨stop, paren, hhead, hstop, hvalue⟩ := mem_hits_readCallHead_iff.mp hmem
      refine ⟨i, _, _, stop, paren, hline, hget, hhead, ?_, hle, by omega⟩
      rw [String.toList_ofList, hvalue]

/-- **The signature of `print` is shown where a head of its call touches the place, and no other
signature is shown anywhere.** -/
theorem signatureAt_print_head (source : Source) (position : Position) :
    (∀ signature, signatureAt source position = some signature ↔
      signature = printSignature ∧ HeadTouches source "print" position) ∧
    (signatureAt source position = none ↔ ¬ HeadTouches source "print" position) := by
  have hsound : ∀ signature, signatureAt source position = some signature →
      signature = printSignature ∧ HeadTouches source "print" position := by
    intro signature h
    obtain ⟨hit, hmem, hknown⟩ := List.exists_of_findSome?_eq_some h
    split at hknown
    · rename_i htouch
      obtain ⟨hname, hsignature⟩ := signature?_eq_some_iff.mp hknown
      exact ⟨hsignature, headTouches_iff.mpr ⟨hit, hmem, htouch, hname⟩⟩
    · cases hknown
  have hnone : signatureAt source position = none ↔ ¬ HeadTouches source "print" position := by
    constructor
    · intro h htouches
      obtain ⟨hit, hmem, htouch, hname⟩ := headTouches_iff.mp htouches
      have hknown := List.findSome?_eq_none_iff.mp h hit hmem
      rw [if_pos htouch, hname] at hknown
      cases hknown
    · intro h
      cases hfound : signatureAt source position with
      | none => rfl
      | some signature => exact absurd (hsound signature hfound).2 h
  refine ⟨fun signature => ⟨hsound signature, ?_⟩, hnone⟩
  rintro ⟨rfl, htouches⟩
  cases hfound : signatureAt source position with
  | none => exact absurd htouches (hnone.mp hfound)
  | some signature => rw [(hsound signature hfound).1]

/-- Where `foo(` meets `print(`, the second one is found; in `sprint(` there is no head of `print`.
-/
example : signatureAt (.ofString "foo(print(") ⟨0, 4⟩ = some printSignature ∧
    signatureAt (.ofString "sprint (") ⟨0, 3⟩ = none := ⟨rfl, rfl⟩

end Assist
end SpiceKit

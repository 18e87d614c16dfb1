import SpiceKit.Proofs.Scan
import SpiceKit.Proofs.Text.Longest

/-!
# The same text with other line ends

`withReturns` puts a carriage return before every line feed. Nothing that the readers of this
library look for can tell the two apart: both characters are blank, neither is a word character,
and neither stands in a keyword. So **reading commutes with `withReturns`** (`KeepsReturns`), piece
by piece and then through sequencing and optional parts; a whole header is put together from that.

Offsets do move. `moved text i` is where offset `i` of the text is found in the other one: behind
as many more characters as there are line feeds before it. The offsets that are *not* of this form
are those of a line feed behind its carriage return, and no reader finds anything there, which is
all that a scan needs (`hits_withReturns`).
-/

set_option autoImplicit false

namespace SpiceKit
namespace Text

/-- The text with a carriage return before every line feed. An editor that writes such line ends is
to see the same declarations, redefinitions and findings, which is what `analyze_withReturns` comes
to in the end. -/
def withReturns (cs : List Char) : List Char :=
  cs.flatMap fun c => if c = '\n' then ['\r', '\n'] else [c]

@[simp] theorem withReturns_nil : withReturns [] = [] := rfl

@[simp] theorem withReturns_break (cs : List Char) :
    withReturns ('\n' :: cs) = '\r' :: '\n' :: withReturns cs := rfl

theorem withReturns_cons {c : Char} (h : c ≠ '\n') (cs : List Char) :
    withReturns (c :: cs) = c :: withReturns cs := by
  rw [withReturns, List.flatMap_cons, if_neg h]
  rfl

theorem withReturns_append (a b : List Char) :
    withReturns (a ++ b) = withReturns a ++ withReturns b := List.flatMap_append

theorem withReturns_of_not_mem {l : List Char} (h : '\n' ∉ l) : withReturns l = l := by
  induction l with
  | nil => rfl
  | cons c l ih =>
    have hc : c ≠ '\n' := fun heq => h (by simp [heq])
    rw [withReturns_cons hc, ih fun hmem => h (by simp [hmem])]

theorem length_withReturns (cs : List Char) :
    (withReturns cs).length = cs.length + cs.count '\n' := by
  induction cs with
  | nil => rfl
  | cons c cs ih =>
    by_cases hc : c = '\n'
    · rw [hc, withReturns_break, List.count_cons_self]
      simp only [List.length_cons, ih]
      omega
    · rw [withReturns_cons hc, List.count_cons_of_ne hc, List.length_cons, List.length_cons, ih]
      omega

theorem getLast?_withReturns (cs : List Char) : (withReturns cs).getLast? = cs.getLast? := by
  induction cs using List.reverseRecOn with
  | nil => rfl
  | append_singleton cs c ih =>
    rw [withReturns_append, List.getLast?_append, List.getLast?_append]
    by_cases hc : c = '\n'
    · rw [hc]
      rfl
    · rw [withReturns_cons hc]
      rfl

/-! ## Where the offsets go -/

/-- Where an offset of a text is found when line feeds have their carriage returns: `moved cs i`
adds one for every line feed before `i`. It is strictly monotone, and `hits_withReturns` carries
every item along it. -/
def moved (text : List Char) (i : Nat) : Nat := i + (text.take i).count '\n'

theorem moved_strictMono (text : List Char) : StrictMono (moved text) := by
  intro i j hij
  have hcount : (text.take i).count '\n' ≤ (text.take j).count '\n' :=
    (List.take_prefix_take_left hij.le).sublist.count_le _
  unfold moved
  omega

theorem moved_add (text : List Char) (i k : Nat) :
    moved text (i + k) = moved text i + moved (text.drop i) k := by
  unfold moved
  rw [List.take_add, List.count_append]
  omega

theorem moved_eq_length {text : List Char} {i : Nat} (h : i ≤ text.length) :
    moved text i = (withReturns (text.take i)).length := by
  rw [length_withReturns, List.length_take, Nat.min_eq_left h, moved]

theorem moved_length (text : List Char) : moved text text.length = (withReturns text).length := by
  rw [moved_eq_length (Nat.le_refl _), List.take_length]

theorem moved_append_succ {before cs : List Char} {c : Char} (hc : c ≠ '\n') :
    moved (before ++ c :: cs) (before.length + 1) = (withReturns before).length + 1 := by
  have htake : (before ++ c :: cs).take (before.length + 1) = before ++ [c] := by
    rw [List.take_length_add_append]
    rfl
  rw [moved_eq_length (by simp), htake, withReturns_append, withReturns_cons hc, List.length_append]
  rfl

theorem withReturns_split (text : List Char) (i : Nat) :
    withReturns text = withReturns (text.take i) ++ withReturns (text.drop i) := by
  rw [← withReturns_append, List.take_append_drop]

theorem take_moved {text : List Char} {i : Nat} (h : i ≤ text.length) :
    (withReturns text).take (moved text i) = withReturns (text.take i) := by
  rw [withReturns_split text i]
  exact List.take_left' (moved_eq_length h).symm

theorem drop_moved {text : List Char} {i : Nat} (h : i ≤ text.length) :
    (withReturns text).drop (moved text i) = withReturns (text.drop i) := by
  rw [withReturns_split text i]
  exact List.drop_left' (moved_eq_length h).symm

theorem length_sub_withReturns {rest cs : List Char} (h : rest <:+ cs) :
    (withReturns cs).length - (withReturns rest).length = moved cs (cs.length - rest.length) := by
  obtain ⟨front, rfl⟩ := h
  have hlength : (front ++ rest).length - rest.length = front.length := by simp
  rw [hlength, moved_eq_length (by simp), List.take_left, withReturns_append, List.length_append,
    Nat.add_sub_cancel]

/-- Every offset comes from an offset of the text, but for those of the line feeds, since what
stands there stood behind a carriage return. A scan meets no others, because no item starts with a
line feed. `moved` is where an offset goes. -/
theorem exists_moved {text : List Char} {j : Nat} (h : j < (withReturns text).length) :
    (∃ i, i < text.length ∧ j = moved text i) ∨
      ∃ rest, (withReturns text).drop j = '\n' :: rest := by
  induction text generalizing j with
  | nil => cases h
  | cons c text ih =>
    rcases Nat.eq_zero_or_pos j with rfl | hpos
    · exact Or.inl ⟨0, by simp, rfl⟩
    -- What is left of `j` behind the first character of the text.
    have hstep : ∀ k, j = moved (c :: text) 1 + k → k < (withReturns text).length →
        (withReturns (c :: text)).drop j = (withReturns text).drop k →
        (∃ i, i < (c :: text).length ∧ j = moved (c :: text) i) ∨
          ∃ rest, (withReturns (c :: text)).drop j = '\n' :: rest := by
      intro k hj hk hdrop
      rcases ih hk with ⟨i, hi, rfl⟩ | ⟨rest, hrest⟩
      · refine Or.inl ⟨1 + i, by rw [List.length_cons]; omega, ?_⟩
        rw [hj, moved_add]
        rfl
      · exact Or.inr ⟨rest, hdrop.trans hrest⟩
    by_cases hc : c = '\n'
    · subst hc
      rw [withReturns_break, List.length_cons, List.length_cons] at h
      rcases Nat.eq_or_lt_of_le hpos with rfl | hlt
      · exact Or.inr ⟨_, rfl⟩
      · obtain ⟨k, rfl⟩ := Nat.exists_eq_add_of_le hlt
        refine hstep k rfl (by omega) ?_
        rw [withReturns_break, Nat.add_comm]
        rfl
    · rw [withReturns_cons hc, List.length_cons] at h
      obtain ⟨k, rfl⟩ := Nat.exists_eq_add_of_le hpos
      refine hstep k ?_ (by omega) ?_
      · simp [moved, hc]
      · rw [withReturns_cons hc, Nat.add_comm, List.drop_succ_cons]

/-! ## Pieces -/

theorem span_withReturns {p : Char → Bool} (h : p '\r' = p '\n') (cs : List Char) :
    (withReturns cs).takeWhile p = withReturns (cs.takeWhile p) ∧
      (withReturns cs).dropWhile p = withReturns (cs.dropWhile p) := by
  induction cs with
  | nil => exact ⟨rfl, rfl⟩
  | cons c cs ih =>
    by_cases hc : c = '\n'
    · subst hc
      cases hp : p '\n' with
      | true => simp [h, hp, ih]
      | false => simp [h, hp]
    · cases hp : p c with
      | true => simp [withReturns_cons hc, hp, ih]
      | false => simp [withReturns_cons hc, hp]

/-- The reader finds the same with either line ends, and leaves the same. It is proved of every step
of the reader of headers, from the runs of blanks up to `header?_withReturns`. -/
def KeepsReturns (read : Taker) : Prop :=
  ∀ cs, read (withReturns cs) = (read cs).map withReturns

namespace KeepsReturns

variable {read next : Taker}

theorem andThen (hread : KeepsReturns read) (hnext : KeepsReturns next) :
    KeepsReturns fun cs => (read cs).bind next := by
  intro cs
  simp only [hread cs]
  cases read cs with
  | none => rfl
  | some rest => exact hnext rest

theorem optional (hread : KeepsReturns read) : KeepsReturns fun cs => some ((read cs).getD cs) := by
  intro cs
  simp only [hread cs]
  cases read cs with
  | none => rfl
  | some rest => rfl

theorem of_dropWhile {p : Char → Bool} (h : p '\r' = p '\n') :
    KeepsReturns fun cs => some (cs.dropWhile p) :=
  fun cs => congrArg some (span_withReturns h cs).2

end KeepsReturns

theorem keepsReturns_dropGap : KeepsReturns fun cs => some (dropGap cs) :=
  .of_dropWhile (by decide)

theorem keepsReturns_dropGap? : KeepsReturns dropGap? := by
  intro cs
  cases cs with
  | nil => rfl
  | cons c cs =>
    have hblank : isBlank '\r' = true ∧ isBlank '\n' = true := by decide
    have hsame : isBlank '\r' = isBlank '\n' := hblank.1.trans hblank.2.symm
    by_cases hc : c = '\n'
    · subst hc
      simp only [withReturns_break, dropGap?, hblank.1, hblank.2, if_true, Option.map_some, dropGap,
        List.dropWhile_cons_of_pos, (span_withReturns hsame cs).2]
    · rw [withReturns_cons hc, dropGap?, dropGap?]
      cases isBlank c with
      | true => exact congrArg some (span_withReturns hsame cs).2
      | false => rfl

theorem takeName?_withReturns (cs : List Char) :
    takeName? (withReturns cs) = (takeName? cs).map fun (n, rest) => (n, withReturns rest) := by
  have hsame : isWordChar '\r' = isWordChar '\n' := by decide
  have hnot : '\n' ∉ cs.takeWhile isWordChar := by
    intro hmem
    exact absurd (List.mem_takeWhile_imp hmem) (by decide)
  unfold takeName?
  rw [(span_withReturns hsame cs).1, (span_withReturns hsame cs).2, withReturns_of_not_mem hnot]
  cases cs.takeWhile isWordChar with
  | nil => rfl
  | cons c n => rfl

theorem keepsReturns_takeName? : KeepsReturns fun cs => (takeName? cs).map (·.2) := by
  intro cs
  simp only [takeName?_withReturns, Option.map_map]
  rfl

theorem dropText?_cons (a c : Char) (text cs : List Char) :
    dropText? (a :: text) (c :: cs) = if a = c then dropText? text cs else none := by
  by_cases h : a = c
  · simp [dropText?, h]
  · simp [dropText?, h]

/-- A text without line ends of its own is found in the same places. `KeepsReturns` is what is asked
of every piece of a grammar. -/
theorem keepsReturns_dropText? (text : List Char) (h : '\r' ∉ text ∧ '\n' ∉ text) :
    KeepsReturns (dropText? text) := by
  induction text with
  | nil => exact fun cs => by simp [dropText?]
  | cons a text ih =>
    intro cs
    simp only [List.mem_cons, not_or] at h
    obtain ⟨⟨hr, hr'⟩, hn, hn'⟩ := h
    cases cs with
    | nil => rfl
    | cons c cs =>
      by_cases hc : c = '\n'
      · rw [hc, withReturns_break, dropText?_cons, dropText?_cons, if_neg (Ne.symm hr),
          if_neg (Ne.symm hn)]
        rfl
      · rw [withReturns_cons hc, dropText?_cons, dropText?_cons]
        split
        · exact ih ⟨hr', hn'⟩ cs
        · rfl

theorem keepsReturns_dropModifier? {keywords : List (List Char)}
    (h : ∀ k ∈ keywords, '\r' ∉ k ∧ '\n' ∉ k) : KeepsReturns (dropModifier? keywords) := by
  induction keywords with
  | nil => exact fun cs => rfl
  | cons k keywords ih =>
    intro cs
    have hfirst := (keepsReturns_dropText? k (h k (by simp))).andThen keepsReturns_dropGap? cs
    have hrest := ih (fun k' hmem => h k' (by simp [hmem])) cs
    unfold dropModifier? at hrest ⊢
    simp only [List.findSome?_cons, hfirst, hrest]
    cases (dropText? k cs).bind dropGap? with
    | none => rfl
    | some rest => rfl

/-! ## Scans -/

section
open Scan

variable {α : Type}

theorem charBefore_moved {text : List Char} {i : Nat} (h : i ≤ text.length) :
    charBefore (withReturns text) (moved text i) = charBefore text i := by
  rw [charBefore, take_moved h, getLast?_withReturns, charBefore]

/-- The reader finds the same items with either line ends, each as long as its text is, and no item
starts with a line feed. This is all that `hits_withReturns` needs of a reader. -/
structure Stretches (read : Reader α) (carry : List Char → α → α) : Prop where
  same : ∀ before cs, read before (withReturns cs) =
    (read before cs).map fun (value, size) => (carry cs value, moved cs size)
  none_at_break : ∀ before cs, read before ('\n' :: cs) = none

def movedHit (text : List Char) (carry : List Char → α → α) (hit : Hit α) : Hit α :=
  { start := moved text hit.start
    stop := moved text hit.stop
    value := carry (text.drop hit.start) hit.value }

/-- **A scan finds the same items with either line ends.** The items have to be `Stretches`: read
alike with either line ends, and none of them starting with one. -/
theorem hits_withReturns {read : Reader α} {carry : List Char → α → α} (hadvances : Advances read)
    (hread : Stretches read carry) (text : List Char) :
    hits read (withReturns text) = (hits read text).map (movedHit text carry) := by
  have hitem : ∀ hit : Hit α, ItemAt read text hit.start hit.value hit.stop →
      ItemAt read (withReturns text) (moved text hit.start) (movedHit text carry hit).value
        (moved text hit.stop) := by
    rintro hit ⟨hlt, size, hfound, hstop⟩
    refine ⟨by rw [← moved_length]; exact moved_strictMono text hlt,
      moved (text.drop hit.start) size, ?_, by rw [hstop, moved_add]⟩
    rw [charBefore_moved hlt.le, drop_moved hlt.le, hread.same, hfound]
    rfl
  have hback : ∀ {j value stop}, ItemAt read (withReturns text) j value stop →
      ∃ i value stop, j = moved text i ∧ ItemAt read text i value stop := by
    rintro j value stop ⟨hlt, size, hfound, -⟩
    rcases exists_moved hlt with ⟨i, hi, rfl⟩ | ⟨rest, hrest⟩
    · rw [charBefore_moved hi.le, drop_moved hi.le, hread.same] at hfound
      obtain ⟨⟨value', size'⟩, hfound', -⟩ := Option.map_eq_some_iff.mp hfound
      exact ⟨i, value', i + size', rfl, hi, size', hfound', rfl⟩
    · rw [hrest, hread.none_at_break] at hfound
      cases hfound
  -- Both are the leftmost items, and the items are the same but moved.
  have hmoved := (hits_leftmost hadvances text).map (moved_strictMono text)
    (g := movedHit text carry) (fun _ => rfl) (fun _ => rfl) hitem hback
  exact (hits_leftmost hadvances (withReturns text)).unique (fun h h' => h.unique h') hmoved

end
end Text
end SpiceKit

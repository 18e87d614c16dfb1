import Mathlib.Computability.Language
import Mathlib.Data.List.TakeWhile
import SpiceKit.Text.Piece

/-!
# What a piece reader takes

`Text.Piece` reads with `takeWhile` and `dropWhile` and never gives anything back. This file says
what that amounts to: each reader is an **exact split** of its text. `dropGap?` answers `rest` if
and only if the text is a gap followed by `rest` and `rest` does not go on with a blank;
`takeName?` likewise with word characters; `dropText?` and `dropModifier?` with fixed words.

The pieces are named here as languages (`gap`, `names`, `literal`), so that the grammars built from
them are expressions over `+`, `*` and `∗`, and nothing downstream opens a reader again.

Everything rests on one fact about the two tables: a blank is never a word character.
-/

set_option autoImplicit false

namespace SpiceKit
namespace Text

/-! ## Blanks are no word characters -/

/-- The check is finite on the side of the blanks: there are twenty-nine of them.
`isWordChar_of_isBlank` is drawn from it. -/
theorem isWordChar_of_mem_blankRanges :
    ∀ range ∈ blankRanges, ∀ n ∈ List.range' range.1 (range.2 + 1 - range.1),
      isWordChar (Char.ofNat n) = false := by
  decide +kernel

theorem isWordChar_of_isBlank {c : Char} (h : isBlank c = true) : isWordChar c = false := by
  obtain ⟨range, hmem, hlo, hhi⟩ := (inRanges_iff _ _).mp h
  have hpoint := isWordChar_of_mem_blankRanges range hmem c.toNat
    (List.mem_range'_1.mpr ⟨hlo, by omega⟩)
  rwa [Char.ofNat_toNat] at hpoint

theorem isBlank_of_isWordChar {c : Char} (h : isWordChar c = true) : isBlank c = false := by
  cases hb : isBlank c with
  | false => rfl
  | true => exact absurd h (by simp [isWordChar_of_isBlank hb])

/-! ## Where a run stops -/

/-- No run of such characters goes on at the front of the text: it is empty or starts with another
character. What stands behind a piece is always said to stop the run that the piece ends with, so
that the piece is the longest. `span_eq` is the lemma behind this. -/
def Stops (p : Char → Bool) (cs : List Char) : Prop := ∀ c ∈ cs.head?, p c = false

instance (p : Char → Bool) (cs : List Char) : Decidable (Stops p cs) :=
  Option.decidableForallMem cs.head?

@[simp] theorem stops_nil (p : Char → Bool) : Stops p [] := by simp [Stops]

@[simp] theorem stops_cons {p : Char → Bool} {c : Char} {cs : List Char} :
    Stops p (c :: cs) ↔ p c = false := by simp [Stops]

theorem Stops.append {p : Char → Bool} {cs : List Char} (h : Stops p cs) (hne : cs ≠ [])
    (rest : List Char) : Stops p (cs ++ rest) := by
  cases cs with
  | nil => exact absurd rfl hne
  | cons c cs => simpa using h

theorem stops_dropWhile (p : Char → Bool) (cs : List Char) : Stops p (cs.dropWhile p) := by
  intro c hc
  have hnot := List.head?_dropWhile_not p cs
  rw [Option.mem_def.mp hc] at hnot
  simpa using hnot

/-- **A run and its rest are determined by the text**: whatever run of `p` the text starts with, if
the rest does not go on with `p` (see `Stops`), it is what `takeWhile` and `dropWhile` find. Every
reader of a run is proved correct through this one equation. -/
theorem span_eq {p : Char → Bool} {run rest : List Char} (hrun : ∀ c ∈ run, p c = true)
    (hrest : Stops p rest) :
    (run ++ rest).takeWhile p = run ∧ (run ++ rest).dropWhile p = rest := by
  rw [List.takeWhile_append_of_pos hrun, List.dropWhile_append_of_pos hrun]
  cases rest with
  | nil => simp
  | cons c rest => simp [stops_cons.mp hrest]

/-- A text is cut in one way only into a run and a rest that the run does not go on into. So a
grammar whose parts are cut like this has one reading (`text_injective`). -/
theorem span_unique {p : Char → Bool} {run run' rest rest' : List Char}
    (hrun : ∀ c ∈ run, p c = true) (hrun' : ∀ c ∈ run', p c = true) (hrest : Stops p rest)
    (hrest' : Stops p rest') (h : run ++ rest = run' ++ rest') : run = run' ∧ rest = rest' := by
  obtain ⟨htake, hdrop⟩ := span_eq hrun hrest
  obtain ⟨htake', hdrop'⟩ := span_eq hrun' hrest'
  rw [h] at htake hdrop
  exact ⟨htake.symm.trans htake', hdrop.symm.trans hdrop'⟩

/-! ## The pieces as languages -/

/-- Any number of blanks, as a language. The grammars of headers, calls and lines are put together
from this and the next few languages. `gap` is the same without the empty text. -/
def blanks : Language Char := {cs | ∀ c ∈ cs, isBlank c = true}

def gap : Language Char := {cs | cs ≠ [] ∧ ∀ c ∈ cs, isBlank c = true}

def names : Language Char := {cs | cs ≠ [] ∧ ∀ c ∈ cs, isWordChar c = true}

def literal (text : String) : Language Char := {cs | cs = text.toList}

def oneOf (texts : List String) : Language Char := {cs | cs ∈ texts.map String.toList}

theorem mem_blanks {cs : List Char} : cs ∈ blanks ↔ ∀ c ∈ cs, isBlank c = true := Iff.rfl

theorem nil_mem_blanks : [] ∈ blanks := fun _ hc => by cases hc

theorem space_mem_gap : [' '] ∈ gap := by
  refine ⟨by simp, fun c hc => ?_⟩
  rw [List.mem_singleton.mp hc]
  decide

theorem mem_names_of_all {cs : List Char} (h : cs ≠ [] ∧ cs.all isWordChar = true) : cs ∈ names :=
  ⟨h.1, List.all_eq_true.mp h.2⟩

theorem mem_oneOf {texts : List String} {cs : List Char} :
    cs ∈ oneOf texts ↔ cs ∈ texts.map String.toList := Iff.rfl

theorem stops_isWordChar_of_mem_blanks {g : List Char} (hg : g ∈ blanks) : Stops isWordChar g := by
  intro c hc
  exact isWordChar_of_isBlank (hg c (List.mem_of_mem_head? hc))

theorem stops_isWordChar_of_mem_gap {g : List Char} (hg : g ∈ gap) : Stops isWordChar g :=
  stops_isWordChar_of_mem_blanks (mem_blanks.mpr hg.2)

theorem stops_isBlank_of_mem_names {n : List Char} (hn : n ∈ names) : Stops isBlank n := by
  intro c hc
  exact isBlank_of_isWordChar (hn.2 c (List.mem_of_mem_head? hc))

/-! ## The readers are exact splits -/

theorem dropText?_eq_some_iff {text cs rest : List Char} :
    dropText? text cs = some rest ↔ text ++ rest = cs := by
  unfold dropText?
  split
  · rename_i hpre
    obtain ⟨behind, rfl⟩ := List.isPrefixOf_iff_prefix.mp hpre
    rw [List.drop_left, Option.some.injEq, List.append_cancel_left_eq]
    exact eq_comm
  · rename_i hpre
    simp only [reduceCtorEq, false_iff]
    rintro rfl
    exact hpre (List.isPrefixOf_iff_prefix.mpr (List.prefix_append _ _))

theorem dropGap_eq_iff {cs rest : List Char} :
    dropGap cs = rest ↔ ∃ g ∈ blanks, g ++ rest = cs ∧ Stops isBlank rest := by
  constructor
  · rintro rfl
    exact ⟨cs.takeWhile isBlank, fun c hc => List.mem_takeWhile_imp hc,
      List.takeWhile_append_dropWhile, stops_dropWhile _ _⟩
  · rintro ⟨g, hg, rfl, hrest⟩
    exact (span_eq hg hrest).2

theorem dropGap?_eq_some_iff {cs rest : List Char} :
    dropGap? cs = some rest ↔ ∃ g ∈ gap, g ++ rest = cs ∧ Stops isBlank rest := by
  cases cs with
  | nil =>
    simp only [dropGap?, reduceCtorEq, false_iff]
    rintro ⟨g, hg, hsplit, -⟩
    exact hg.1 (List.append_eq_nil_iff.mp hsplit).1
  | cons c cs =>
    rw [dropGap?]
    constructor
    · intro h
      split at h
      · rename_i hc
        obtain ⟨g, hg, rfl, hrest⟩ := dropGap_eq_iff.mp (Option.some.inj h)
        refine ⟨c :: g, ⟨by simp, ?_⟩, rfl, hrest⟩
        intro d hd
        rcases List.mem_cons.mp hd with rfl | hd
        · exact hc
        · exact hg d hd
      · cases h
    -- The first blank is looked at apart, since a gap must not be empty.
    · rintro ⟨g, ⟨hne, hg⟩, hsplit, hrest⟩
      cases g with
      | nil => exact absurd rfl hne
      | cons d g =>
        obtain ⟨rfl, rfl⟩ := List.cons.inj hsplit
        rw [if_pos (hg d (by simp))]
        exact congrArg some
          (dropGap_eq_iff.mpr ⟨g, fun e he => hg e (by simp [he]), rfl, hrest⟩)

theorem takeName?_eq_some_iff {cs n rest : List Char} :
    takeName? cs = some (n, rest) ↔ n ∈ names ∧ n ++ rest = cs ∧ Stops isWordChar rest := by
  unfold takeName?
  constructor
  · intro h
    split at h
    · cases h
    · rename_i c run hrun
      cases h
      refine ⟨⟨by simp, ?_⟩, ?_, stops_dropWhile _ _⟩
      · rw [← hrun]
        exact fun d hd => List.mem_takeWhile_imp hd
      · rw [← hrun]
        exact List.takeWhile_append_dropWhile
  · rintro ⟨⟨hne, hn⟩, rfl, hrest⟩
    obtain ⟨htake, hdrop⟩ := span_eq hn hrest
    rw [htake, hdrop]
    cases n with
    | nil => exact absurd rfl hne
    | cons c run => rfl

/-- No text of the list begins with another one. The keywords of modifiers are such a list
(`prefixFree_modifiers`), and for such a list a reader that tries one after the other has no choice. -/
def PrefixFree (texts : List (List Char)) : Prop :=
  ∀ a ∈ texts, ∀ b ∈ texts, a <+: b → a = b

instance (texts : List (List Char)) : Decidable (PrefixFree texts) :=
  inferInstanceAs (Decidable (∀ a ∈ texts, ∀ b ∈ texts, a <+: b → a = b))

/-- At most one keyword can stand at the front, so that trying them in order is no choice. It is
where `PrefixFree` is spent. -/
theorem dropModifier?_eq_some_iff {keywords : List (List Char)} (hfree : PrefixFree keywords)
    {cs rest : List Char} :
    dropModifier? keywords cs = some rest ↔
      ∃ k ∈ keywords, ∃ g ∈ gap, k ++ (g ++ rest) = cs ∧ Stops isBlank rest := by
  unfold dropModifier?
  constructor
  · intro h
    obtain ⟨k, hk, hread⟩ := List.exists_of_findSome?_eq_some h
    obtain ⟨behind, hbehind, hgap⟩ := Option.bind_eq_some_iff.mp hread
    obtain ⟨g, hg, rfl, hrest⟩ := dropGap?_eq_some_iff.mp hgap
    exact ⟨k, hk, g, hg, dropText?_eq_some_iff.mp hbehind, hrest⟩
  · rintro ⟨k, hk, g, hg, rfl, hrest⟩
    have hread : (dropText? k (k ++ (g ++ rest))).bind dropGap? = some rest :=
      Option.bind_eq_some_iff.mpr ⟨g ++ rest, dropText?_eq_some_iff.mpr rfl,
        dropGap?_eq_some_iff.mpr ⟨g, hg, rfl, hrest⟩⟩
    cases hfind : keywords.findSome? fun k' => (dropText? k' (k ++ (g ++ rest))).bind dropGap? with
    | none =>
      rw [List.findSome?_eq_none_iff.mp hfind k hk] at hread
      cases hread
    | some other =>
      -- The keyword found first is a prefix of the same text, hence it is `k`.
      obtain ⟨k', hk', hread'⟩ := List.exists_of_findSome?_eq_some hfind
      obtain ⟨behind, hbehind, -⟩ := Option.bind_eq_some_iff.mp hread'
      have hpre' : k' <+: k ++ (g ++ rest) := ⟨behind, dropText?_eq_some_iff.mp hbehind⟩
      have hpre : k <+: k ++ (g ++ rest) := List.prefix_append _ _
      have hsame : k' = k := by
        rcases List.prefix_or_prefix_of_prefix hpre' hpre with hle | hle
        · exact hfree k' hk' k hk hle
        · exact (hfree k hk k' hk' hle).symm
      rw [hsame, hread] at hread'
      exact hread'.symm

end Text
end SpiceKit

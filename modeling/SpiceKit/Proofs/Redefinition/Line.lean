import SpiceKit.Redefinition
import SpiceKit.Proofs.Declaration.Grammar
import SpiceKit.Proofs.Source.LineByLine
import SpiceKit.Proofs.Text.Trim

/-!
# Where a redefined function stands

Redefinitions are judged line by line and trimmed, so what is reported is a name and a line number.
Here the same is said by offsets in the document: **a function is reported on a line if and only if
a definition of it stands on that line behind nothing but blanks and modifiers**
(`mem_redefinitions_function_iff`).

A definition is given by three offsets, those of `def`, of the name and of the parenthesis
(`DefinitionAt`). Only that they stand on one line is asked (`OnLine`); the parameter list may go on
below.
-/

set_option autoImplicit false

namespace SpiceKit

open Text
open scoped Computability

namespace Redefinition

/-! ## A line that defines a function -/

/-- Any number of modifiers, each with a gap behind it. Unlike the header of a declaration, which
takes one modifier at most, a line may start with several. What may stand before the `def` of a line
is `blanks * lead`. -/
def lead : Language Char := (oneOf (Kind.modifiers .function) * gap)∗

/-- A name ends before a character that is not of its kind, and before the blanks in front of it.
The lines of a grammar cut their names with it (`text_injective`). -/
theorem stops_isWordChar_append_cons {v : List Char} (hv : v ∈ blanks) {c : Char}
    (hc : isWordChar c = false) (rest : List Char) : Stops isWordChar (v ++ c :: rest) := by
  cases v with
  | nil => exact stops_cons.mpr hc
  | cons b v => exact (stops_isWordChar_of_mem_blanks hv).append (by simp) _

/-- A text that goes on as the definition of a function: what stands between `def` and the name,
between the name and the parenthesis, and behind the parenthesis. Both readers come to it, that of
lines and that of headers, and so `redefinitions_agree_declarations` can compare them. -/
structure Defines (cs n g v rest : List Char) : Prop where
  split : cs = "def".toList ++ (g ++ (n ++ (v ++ '(' :: rest)))
  gap_mem : g ∈ gap
  name_mem : n ∈ names
  blanks_mem : v ∈ blanks

namespace Defines

variable {cs n g v rest more : List Char}

theorem append (h : Defines cs n g v rest) (more : List Char) :
    Defines (cs ++ more) n g v (rest ++ more) :=
  ⟨by rw [h.split]; simp, h.gap_mem, h.name_mem, h.blanks_mem⟩

theorem of_append (h : Defines (cs ++ more) n g v rest)
    (hlt : "def".length + g.length + n.length + v.length < cs.length) :
    ∃ rest', Defines cs n g v rest' := by
  have hpre : "def".toList ++ (g ++ (n ++ (v ++ ['(']))) <+: cs ++ more :=
    ⟨rest, by rw [h.split]; simp⟩
  obtain ⟨rest', hrest'⟩ := List.prefix_of_prefix_length_le hpre (List.prefix_append cs more) (by
    simp only [List.length_append, String.length_toList, List.length_singleton]
    omega)
  exact ⟨rest', by rw [← hrest']; simp, h.gap_mem, h.name_mem, h.blanks_mem⟩

theorem stops_name (h : Defines cs n g v rest) : Stops isWordChar (v ++ '(' :: rest) :=
  stops_isWordChar_append_cons h.blanks_mem (by decide) rest

end Defines

theorem stops_lead {p : Char → Bool} (hp : ∀ c, isWordChar c = true → p c = false) :
    ∀ s ∈ lead * literal "def", Stops p s := by
  have hname : ∀ n ∈ names, Stops p n := fun n hn c hc => hp c (hn.2 c (List.mem_of_mem_head? hc))
  have hmodifier : ∀ k ∈ oneOf (Kind.modifiers .function), Stops p k := fun k hk =>
    hname k (Kind.modifier_mem_names .function k hk)
  refine stops_mul_of_nil (stops_kstar (stops_mul hmodifier fun hnil => ?_))
    (stops_literal (hname _ (Kind.keyword_mem_names .function)))
  exact (Kind.modifier_mem_names .function [] hnil).1 rfl

theorem exists_names_append {p : List Char} (hp : p ∈ lead) (rest : List Char) :
    ∃ n ∈ names, ∃ more, p ++ ("def".toList ++ rest) = n ++ more := by
  obtain ⟨items, rfl, hitems⟩ := Language.mem_kstar.mp hp
  cases items with
  | nil => exact ⟨_, Kind.keyword_mem_names .function, rest, rfl⟩
  | cons item items =>
    obtain ⟨k, hk, g, -, rfl⟩ := Language.mem_mul.mp (hitems item (by simp))
    refine ⟨k, Kind.modifier_mem_names .function k hk,
      g ++ (items.flatten ++ ("def".toList ++ rest)), ?_⟩
    simp

theorem afterModifiers_of_some {cs rest : List Char} (h : dropModifier? modifiers cs = some rest) :
    afterModifiers cs = afterModifiers rest := by
  rw [afterModifiers]
  split
  · rename_i hnone
    rw [h] at hnone
    cases hnone
  · rename_i rest' hsome
    rw [h] at hsome
    rw [Option.some.inj hsome]

theorem afterModifiers_of_none {cs : List Char} (h : dropModifier? modifiers cs = none) :
    afterModifiers cs = cs := by
  rw [afterModifiers]
  split
  · rfl
  · rename_i hsome
    rw [h] at hsome
    cases hsome

theorem afterModifiers_sound (cs : List Char) : ∃ p ∈ lead, p ++ afterModifiers cs = cs := by
  fun_induction afterModifiers cs with
  | case1 cs hread => exact ⟨[], Language.nil_mem_kstar _, rfl⟩
  | case2 cs rest hread hlt ih =>
    obtain ⟨p, hp, rfl⟩ := (takes_modifier (Kind.prefixFree_modifiers .function)).sound hread
    obtain ⟨q, hq, hsplit⟩ := ih
    refine ⟨p ++ q, ?_, by rw [List.append_assoc, hsplit]⟩
    rw [lead, ← Language.one_add_self_mul_kstar_eq_kstar]
    exact Or.inr (Language.append_mem_mul hp hq)

/-- All modifiers are taken off, and nothing of the `def` behind them. -/
theorem afterModifiers_append {p : List Char} (hp : p ∈ lead) (rest : List Char) :
    afterModifiers (p ++ ("def".toList ++ rest)) = "def".toList ++ rest := by
  have hfree := Kind.prefixFree_modifiers .function
  -- Induction on the modifiers. Behind each stands the next one or the `def`: a word either way, so
  -- that the gap before it is taken and nothing more.
  obtain ⟨items, rfl, hitems⟩ := Language.mem_kstar.mp hp
  clear hp
  induction items with
  | nil =>
    have hnone := refuses_modifier hfree (m := 1) (Kind.not_comparable_keyword .function .function)
    rw [mul_one] at hnone
    exact afterModifiers_of_none (hnone _ rfl (Kind.keyword_ne_nil .function) rest)
  | cons item items ih =>
    have hrest : ∀ y ∈ items, y ∈ oneOf (Kind.modifiers .function) * gap := fun y hy =>
      hitems y (by simp [hy])
    have hstops : ∀ s ∈ lead * literal "def", Stops isBlank s :=
      stops_lead fun _ hc => isBlank_of_isWordChar hc
    have hread := leaves_modifier hfree hstops item (hitems item (by simp))
      (items.flatten ++ "def".toList)
      (Language.append_mem_mul (Language.join_mem_kstar hrest) rfl) (by simp) rest
    rw [List.append_assoc] at hread
    rw [List.flatten_cons, List.append_assoc, afterModifiers_of_some hread]
    exact ih hrest

/-- **The lines that define a function** are the modifiers of `lead`, then a `def`, then what
`Defines` the name. -/
theorem functionName?_eq_some_iff {line n : List Char} :
    functionName? line = some n ↔
      ∃ p ∈ lead, ∃ cs g v rest, line = p ++ cs ∧ Defines cs n g v rest := by
  unfold functionName?
  constructor
  · intro hread
    obtain ⟨afterDef, hdef, hread⟩ := Option.bind_eq_some_iff.mp hread
    obtain ⟨atName, hgap, hread⟩ := Option.bind_eq_some_iff.mp hread
    obtain ⟨⟨name, behind⟩, hname, hopen⟩ := Option.bind_eq_some_iff.mp hread
    clear hread
    obtain ⟨p, hp, hline⟩ := afterModifiers_sound line
    obtain ⟨g, hg, rfl, -⟩ := dropGap?_eq_some_iff.mp hgap
    obtain ⟨hn, rfl, -⟩ := takeName?_eq_some_iff.mp hname
    simp only at hopen
    split at hopen
    · rename_i rest hbehind
      obtain rfl := Option.some.inj hopen
      obtain ⟨v, hv, rfl, -⟩ := dropGap_eq_iff.mp hbehind
      exact ⟨p, hp, _, g, v, rest, hline.symm, (dropText?_eq_some_iff.mp hdef).symm, hg, hn, hv⟩
    · cases hopen
  · rintro ⟨p, hp, _, g, v, rest, rfl, hdefines⟩
    have hbehind := hdefines.stops_name
    obtain ⟨rfl, hg, hn, hv⟩ := hdefines
    have hopen : Stops isBlank ('(' :: rest) := stops_cons.mpr (by decide)
    -- Each reader takes all that it can, and the next part starts with what it cannot take.
    have hatName := (stops_isBlank_of_mem_names hn).append hn.1 (v ++ '(' :: rest)
    rw [afterModifiers_append hp]
    refine Option.bind_eq_some_iff.mpr ⟨_, dropText?_eq_some_iff.mpr rfl, ?_⟩
    refine Option.bind_eq_some_iff.mpr ⟨_, dropGap?_eq_some_iff.mpr ⟨g, hg, rfl, hatName⟩, ?_⟩
    refine Option.bind_eq_some_iff.mpr
      ⟨(n, v ++ '(' :: rest), takeName?_eq_some_iff.mpr ⟨hn, rfl, hbehind⟩, ?_⟩
    simp only [dropGap_eq_iff.mpr ⟨v, hv, rfl, hopen⟩]

/-- Trimming takes nothing off but blanks before the modifiers and behind the parenthesis. What
stands between is `lead`, the word `def`, a gap, the name and the parenthesis. -/
theorem functionName?_trim_eq_some_iff {line n : List Char} :
    functionName? (trim line) = some n ↔
      ∃ front ∈ blanks * lead, ∃ cs g v rest, line = front ++ cs ∧ Defines cs n g v rest := by
  rw [functionName?_eq_some_iff]
  constructor
  · rintro ⟨p, hp, cs, g, v, rest, htrim, hdefines⟩
    obtain ⟨left, hleft, right, -, hline⟩ := exists_trim_split line
    rw [htrim] at hline
    exact ⟨left ++ p, Language.append_mem_mul hleft hp, cs ++ right, g, v, rest ++ right,
      by rw [hline]; simp, hdefines.append right⟩
  · rintro ⟨front, hfront, cs, g, v, rest, rfl, hdefines⟩
    obtain ⟨left, hleft, p, hp, rfl⟩ := Language.mem_mul.mp hfront
    -- Trimming takes from behind the parenthesis only, which is no blank itself.
    have hsplit : ∀ tail, p ++ ("def".toList ++ (g ++ (n ++ (v ++ '(' :: tail)))) =
        (p ++ ("def".toList ++ (g ++ (n ++ v)))) ++ '(' :: tail := by simp
    have hstops : Stops isBlank (p ++ ("def".toList ++ (g ++ (n ++ (v ++ '(' :: rest))))) := by
      rw [← List.append_assoc]
      exact (stops_lead (fun _ hc => isBlank_of_isWordChar hc) _
        (Language.append_mem_mul hp rfl)).append (by simp) _
    refine ⟨p, hp, _, g, v, trimEnd rest, ?_, rfl, hdefines.gap_mem, hdefines.name_mem,
      hdefines.blanks_mem⟩
    rw [hsplit] at hstops
    rw [hdefines.split, List.append_assoc, hsplit, hsplit, trim_append hleft hstops (by decide)]

theorem isComment_of_names_append {n : List Char} (hn : n ∈ names) (rest : List Char) :
    isComment (n ++ rest) = false := by
  have hword : Stops (fun c => c == '#' || c == '/') n := by
    intro c hc
    have hchar := hn.2 c (List.mem_of_mem_head? hc)
    have hhash : c ≠ '#' := by
      rintro rfl
      exact absurd hchar (by decide)
    have hslash : c ≠ '/' := by
      rintro rfl
      exact absurd hchar (by decide)
    simp [hhash, hslash]
  have hstops := hword.append hn.1 rest
  unfold isComment
  split
  · rename_i htext
    simp [htext] at hstops
  · rename_i htext
    simp [htext] at hstops
  · rfl

theorem isComment_of_functionName? {line n : List Char} (h : functionName? line = some n) :
    isComment line = false := by
  obtain ⟨p, hp, cs, g, v, rest, rfl, hdefines⟩ := functionName?_eq_some_iff.mp h
  obtain ⟨first, hfirst, more, hline⟩ := exists_names_append hp (g ++ (n ++ (v ++ '(' :: rest)))
  rw [hdefines.split, hline]
  exact isComment_of_names_append hfirst more

theorem ofTrimmed?_function_iff {reserved : List String} {line : List Char} {name : String} :
    ofTrimmed? reserved line = some (name, .function) ↔
      name ∈ reserved ∧ functionName? line = some name.toList := by
  unfold ofTrimmed?
  constructor
  · intro h
    split at h
    · cases h
    · split at h
      · rename_i n hname
        split at h
        · rename_i hreserved
          obtain ⟨rfl, -⟩ := Prod.mk.inj (Option.some.inj h)
          exact ⟨hreserved, by rw [hname, String.toList_ofList]⟩
        · cases h
      · split at h
        · split at h
          · cases h
          · cases h
        · cases h
  · rintro ⟨hreserved, hname⟩
    simp [isComment_of_functionName? hname, hname, hreserved]

theorem ofLine?_one_add_iff {reserved : List String} {i : Nat} {line : List Char} {name : String}
    {number : Int} {form : Form} :
    ofLine? reserved (1 + i) line = some ⟨name, number, form⟩ ↔
      number = i + 1 ∧ ofTrimmed? reserved (trim line) = some (name, form) := by
  unfold ofLine?
  rw [Option.map_eq_some_iff]
  constructor
  · intro h
    obtain ⟨⟨name', form'⟩, htrimmed, heq⟩ := h
    obtain ⟨rfl, rfl, rfl⟩ := Redefinition.mk.inj heq
    exact ⟨by omega, htrimmed⟩
  · intro h
    obtain ⟨rfl, htrimmed⟩ := h
    refine ⟨_, htrimmed, ?_⟩
    rw [Int.add_comm]
    rfl

/-! ## The place of a definition -/

/-- The definition of a function stands in a text: its `def`, its name and its opening parenthesis
are at these offsets. It says by offsets of the document what `Defines` says of a text. -/
def DefinitionAt (text n : List Char) (d m q : Nat) : Prop :=
  ∃ g v rest, Defines (text.drop d) n g v rest ∧
    m = d + "def".length + g.length ∧ q = m + n.length + v.length

/-- A stretch of a text stands on one line, behind nothing but blanks and modifiers. It starts at
`d` and holds the offset `q`; lines count from one. -/
def OnLine (text : List Char) (number : Int) (d q : Nat) : Prop :=
  ∃ i before line after, LineAt text i before line after ∧ number = i + 1 ∧
    ∃ front ∈ blanks * lead, front <+: line ∧ d = before.length + front.length ∧
      q < before.length + line.length

end Redefinition

namespace Source

open Redefinition

theorem redefinitions_eq (source : Source) (reserved : List String) :
    source.redefinitions reserved = judged (Redefinition.ofLine? reserved) 1 source.text := rfl

theorem mem_redefinitions_iff {source : Source} {reserved : List String} {name : String}
    {number : Int} {form : Form} :
    ⟨name, number, form⟩ ∈ source.redefinitions reserved ↔
      ∃ i before line after, LineAt source.text i before line after ∧ number = i + 1 ∧
        ofTrimmed? reserved (trim line) = some (name, form) := by
  rw [redefinitions_eq, mem_judged_iff_lineAt]
  simp only [ofLine?_one_add_iff]

/-- **A function is reported on a line exactly when a definition of it stands there**, behind
nothing but blanks and modifiers. The definition is a `DefinitionAt`, and that it stands on a line
behind such a front is `OnLine`. -/
theorem mem_redefinitions_function_iff {source : Source} {reserved : List String} {name : String}
    {number : Int} :
    ⟨name, number, .function⟩ ∈ source.redefinitions reserved ↔
      name ∈ reserved ∧ ∃ d m q, DefinitionAt source.text name.toList d m q ∧
        OnLine source.text number d q := by
  rw [mem_redefinitions_iff]
  constructor
  · rintro ⟨i, before, line, after, hlineAt, hnumber, htrimmed⟩
    obtain ⟨hreserved, hname⟩ := ofTrimmed?_function_iff.mp htrimmed
    obtain ⟨front, hfront, cs, g, v, rest, rfl, hdefines⟩ :=
      functionName?_trim_eq_some_iff.mp hname
    refine ⟨hreserved, before.length + front.length, _, _, ⟨g, v, rest ++ after, ?_, rfl, rfl⟩, i,
      before, _, after, hlineAt, hnumber, front, hfront, List.prefix_append _ _, rfl, ?_⟩
    · rw [hlineAt.split, List.drop_length_add_append, List.append_assoc, List.drop_left]
      exact hdefines.append after
    · have hlength := congrArg List.length hdefines.split
      simp only [List.length_append, List.length_cons, String.length_toList] at hlength ⊢
      omega
  · rintro ⟨hreserved, d, m, q, ⟨g, v, rest, hdefines, rfl, rfl⟩, i, before, line, after, hlineAt,
      hnumber, front, hfront, ⟨cs, rfl⟩, rfl, hq⟩
    rw [hlineAt.split, List.drop_length_add_append, List.append_assoc, List.drop_left] at hdefines
    obtain ⟨rest', hdefines'⟩ := hdefines.of_append (by rw [List.length_append] at hq; omega)
    refine ⟨i, before, _, after, hlineAt, hnumber, ofTrimmed?_function_iff.mpr ⟨hreserved, ?_⟩⟩
    exact functionName?_trim_eq_some_iff.mpr ⟨front, hfront, cs, g, v, rest', rfl, hdefines'⟩

end Source
end SpiceKit

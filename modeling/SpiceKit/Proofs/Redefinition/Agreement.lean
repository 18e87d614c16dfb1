import SpiceKit.Proofs.Declaration.Scan
import SpiceKit.Proofs.Declaration.Shape
import SpiceKit.Proofs.Redefinition.Line

/-!
# Redefined functions are declared functions

A function definition is read twice over: line by line, with any number of modifiers and up to the
opening parenthesis, to see whether it takes a reserved name; and over the whole document, with one
modifier at most and up to the closing parenthesis, to list what is declared. The two agree
(`redefinitions_agree_declarations`), with two provisos that the two grammars force: a parameter
list that is never closed declares nothing, and what stands within the header of another function
is not declared a second time.

The scan of the document may well come upon the definition at another place than the line does: at
its last modifier, or at its bare `def` where the modifier was taken for the result type of the
function before. All that is used is that **some** header covers the `def`; if that header has not
come to its name there, it is the header of this very definition (`Kind.drop_mem_opening`).
-/

set_option autoImplicit false

namespace SpiceKit

open Text Scan Declaration
open scoped Computability

namespace Redefinition

variable {text n : List Char} {d m q : Nat}

theorem isBlank_of_getLast? {front : List Char} (h : front ∈ blanks * lead) {c : Char}
    (hc : front.getLast? = some c) : isBlank c = true := by
  obtain ⟨left, hleft, p, hp, rfl⟩ := Language.mem_mul.mp h
  rw [lead, ← Language.one_add_kstar_mul_self_eq_kstar, Language.mem_add, Language.mem_one] at hp
  rcases hp with rfl | hp
  · rw [List.append_nil] at hc
    exact hleft c (List.mem_of_getLast? hc)
  · obtain ⟨more, -, modifier, hmodifier, rfl⟩ := Language.mem_mul.mp hp
    obtain ⟨k, -, g, hg, rfl⟩ := Language.mem_mul.mp hmodifier
    rw [← List.append_assoc, ← List.append_assoc, List.getLast?_append_of_ne_nil _ hg.1] at hc
    exact hg.2 c (List.mem_of_getLast? hc)

/-- No word runs into a definition that starts a line. So a definition on a line is a place where
the scan for headers may start. -/
theorem OnLine.boundary {number : Int} (h : OnLine text number d q) : Boundary text d := by
  obtain ⟨i, before, line, after, hlineAt, -, front, hfront, ⟨cs, rfl⟩, rfl, -⟩ := h
  rw [hlineAt.split, List.append_assoc, ← List.append_assoc before, ← List.length_append]
  refine boundary_append ?_ _
  rw [List.getLast?_append]
  cases hlast : front.getLast? with
  | some c => exact isWordChar_of_isBlank (isBlank_of_getLast? hfront hlast)
  | none =>
    rcases hlineAt.fresh with rfl | hbreak
    · rfl
    · rw [hbreak]
      decide

/-- A definition whose parameter list is closed is a header, without modifiers and as far as the
parenthesis; so `Source.declarations` finds it unless something before covers it. -/
theorem DefinitionAt.exists_header (h : DefinitionAt text n d m q)
    (hclose : ')' ∈ text.drop (q + 1)) :
    ∃ header ∈ Kind.language .function, header <+: text.drop d := by
  obtain ⟨g, v, rest, hdefines, rfl, rfl⟩ := h
  have hrest : text.drop (d + "def".length + g.length + n.length + v.length + 1) = rest := by
    have hlength : d + "def".length + g.length + n.length + v.length + 1 =
        d + ("def".toList ++ (g ++ (n ++ (v ++ ['('])))).length := by
      simp only [List.length_append, String.length_toList, List.length_singleton]
      omega
    have hsplit : text.drop d = "def".toList ++ (g ++ (n ++ (v ++ ['(']))) ++ rest := by
      rw [hdefines.split]
      simp
    rw [hlength, ← List.drop_drop, hsplit, List.drop_left]
  rw [hrest] at hclose
  obtain ⟨ps, tail, rfl, hps⟩ := List.eq_append_cons_of_mem hclose
  refine ⟨_, Kind.bare_function_mem_language hdefines.gap_mem hdefines.name_mem
    hdefines.blanks_mem hps, tail, ?_⟩
  rw [hdefines.split]
  simp [Kind.keyword]

theorem DefinitionAt.opening (h : DefinitionAt text n d m q) :
    ∃ before ∈ Kind.opening .function, ∃ rest, text.drop d = before ++ (n ++ rest) ∧ n ∈ names ∧
      Stops isWordChar rest ∧ m = d + before.length := by
  obtain ⟨g, v, rest, hdefines, rfl, rfl⟩ := h
  refine ⟨"def".toList ++ g, Kind.mem_opening.mpr
    ⟨[], mem_optionally.mpr (Or.inl rfl), g, hdefines.gap_mem, rfl⟩, v ++ '(' :: rest, ?_,
    hdefines.name_mem, ?_, ?_⟩
  · rw [hdefines.split]
    simp
  · exact hdefines.stops_name
  · rw [List.length_append, String.length_toList, Nat.add_assoc]

end Redefinition

namespace Source

open Redefinition

variable {source : Source} {n : List Char} {d m q : Nat}

/-- **A header that covers a definition is its header, or has passed its name already.** The words
of an opening decide which (`drop_mem_opening`). -/
theorem eq_or_le_of_covers {hit : Hit Header}
    (hitem : ItemAt (readHeader .function) source.text hit.start hit.value hit.stop)
    (hdefinition : DefinitionAt source.text n d m q) (hbound : Boundary source.text d)
    (hle : hit.start ≤ d) :
    ((ofHit source .function hit).name.toList = n ∧ (ofHit source .function hit).nameStart = m) ∨
      (ofHit source .function hit).nameStart ≤ d := by
  obtain ⟨before, after, rest, hwritten, -⟩ := written_of_itemAt hitem
  rcases Nat.lt_or_ge d (ofHit source .function hit).nameStart with hlt | hge
  · refine Or.inl ?_
    -- The `def` starts a word within the opening of the header. From there on the opening is still an
    -- opening, and a text has one opening only.
    obtain ⟨opening, hopening, behind, hsplit, hn, hstops, rfl⟩ := hdefinition.opening
    obtain ⟨j, rfl⟩ := Nat.exists_eq_add_of_le hle
    rw [hwritten.nameStart_eq] at hlt
    have hj : j < before.length := Nat.lt_of_add_lt_add_left hlt
    have hinside : ∀ i, i < before.length →
        isWordAt source.text (hit.start + i) = isWordAt before i := by
      intro i hi
      rw [← isWordAt_drop, show source.text.drop hit.start = _ from hwritten.split,
        isWordAt_append_left hi]
    have hword : isWordAt before j = true := by
      rw [← hinside j hj, ← Nat.add_zero (hit.start + j), ← isWordAt_drop, hsplit]
      exact Kind.isWordAt_opening_zero hopening _
    have hstart := Kind.drop_mem_opening hwritten.opening hword fun i hi => by
      rw [← hinside i (by omega)]
      exact hbound _ (by omega)
    have hsame : before.drop j ++ ((ofHit source .function hit).name.toList ++ (after ++ rest)) =
        opening ++ (n ++ behind) := by
      rw [← hsplit, ← List.drop_drop, show source.text.drop hit.start = _ from hwritten.split,
        List.drop_append_of_le_length hj.le]
    obtain ⟨rfl, hname⟩ :=
      Kind.opening_unique hstart hopening hwritten.name hn hwritten.stops hstops hsame
    refine ⟨hname, ?_⟩
    rw [hwritten.nameStart_eq, List.length_drop]
    exact (show hit.start + before.length = hit.start + j + (before.length - j) by omega)
  · exact Or.inr hge

/-- Every function that is declared has its definition. `DefinitionAt` is the form without
modifiers, which the line and the document have in common. -/
theorem exists_definitionAt {s : Declaration} (hs : s ∈ source.declarations)
    (hkind : s.kind = .function) :
    ∃ d q, s.start ≤ d ∧ DefinitionAt source.text s.name.toList d s.nameStart q := by
  obtain ⟨before, after, rest, hwritten⟩ := exists_written hs
  obtain ⟨modifier, -, g, hg, hbefore⟩ := Kind.mem_opening.mp (hkind ▸ hwritten.opening)
  obtain ⟨list, hlist, result, -, hafter⟩ := Language.mem_mul.mp (hkind ▸ hwritten.closing)
  obtain ⟨v, hv, ps, -, hlist⟩ := Header.mem_parameters.mp hlist
  refine ⟨s.start + modifier.length, _, Nat.le_add_right _ _, g, v, ps ++ ')' :: (result ++ rest),
    ⟨?_, hg, hwritten.name, hv⟩, ?_, rfl⟩
  · rw [← List.drop_drop, hwritten.split, hbefore, List.append_assoc, List.drop_left, ← hafter,
      hlist]
    simp [Kind.keyword]
  · rw [hwritten.nameStart_eq, hbefore]
    simp only [List.length_append, String.length_toList, Kind.keyword]
    omega

/-- **The check for reserved names and the list of declarations agree on functions.** Each function
that the check reports on a line is defined there; wherever on that line it is defined, its
parameter list is never closed, or the function is declared with its name at that place, or its
`def` stands in the header of a function whose name came before. And each function that is declared
is defined; wherever its definition stands on one line, behind nothing but blanks and modifiers, the
check reports it on that line if its name is reserved. -/
theorem redefinitions_agree_declarations (source : Source) (reserved : List String) :
    (∀ r ∈ source.redefinitions reserved, r.form = .function →
      (∃ d m q, DefinitionAt source.text r.name.toList d m q ∧ OnLine source.text r.line d q) ∧
      ∀ d m q, DefinitionAt source.text r.name.toList d m q → OnLine source.text r.line d q →
        ')' ∉ source.text.drop (q + 1) ∨
        (∃ s ∈ source.declarations, s.kind = .function ∧ s.name = r.name ∧ s.nameStart = m) ∨
        ∃ e ∈ source.declarations, e.kind = .function ∧ e.nameStart ≤ d ∧
          ∃ header stop, Kind.LongestAt .function source.text e.start header stop ∧ d < stop) ∧
    ∀ s ∈ source.declarations, s.kind = .function →
      (∃ d q, s.start ≤ d ∧ DefinitionAt source.text s.name.toList d s.nameStart q) ∧
      ∀ d q number, DefinitionAt source.text s.name.toList d s.nameStart q →
        OnLine source.text number d q → s.name ∈ reserved →
          ⟨s.name, number, .function⟩ ∈ source.redefinitions reserved := by
  constructor
  · rintro ⟨name, number, form⟩ hr rfl
    refine ⟨(mem_redefinitions_function_iff.mp hr).2, fun d m q hdefinition honLine => ?_⟩
    by_cases hclose : ')' ∈ source.text.drop (q + 1)
    · right
      obtain ⟨p, hp, hpre⟩ := hdefinition.exists_header hclose
      obtain ⟨_, hhere⟩ := Kind.exists_itemAt honLine.boundary hp hpre
      have hscan := hits_leftmost (advances_readHeader .function) source.text
      obtain ⟨hit, hmem, hle, hlt⟩ := hscan.covers (Nat.zero_le d) hhere
      have hitem := hscan.item_of_mem hit hmem
      have hdeclared : ofHit source .function hit ∈ source.declarations :=
        mem_declarations.mpr (List.mem_map_of_mem hmem)
      rcases eq_or_le_of_covers hitem hdefinition honLine.boundary hle with ⟨hname, hm⟩ | hpassed
      · exact Or.inl ⟨_, hdeclared, rfl, String.toList_inj.mp hname, hm⟩
      · exact Or.inr ⟨_, hdeclared, rfl, hpassed, _, _, Kind.longestAt_of_itemAt hitem, hlt⟩
    · exact Or.inl hclose
  · intro s hs hkind
    refine ⟨exists_definitionAt hs hkind, fun d q number hdefinition honLine hreserved => ?_⟩
    exact mem_redefinitions_function_iff.mpr ⟨hreserved, d, _, q, hdefinition, honLine⟩

set_option maxRecDepth 8000 in
/-- Two modifiers: the line takes both, the scan of the document the second one only, and the two
come to the same name. -/
theorem redefinitions_agree_declarations_modifiers :
    ⟨"print", 1, .function⟩ ∈ (ofString "final static def print(x)").redefinitions ["print"] ∧
      ∃ s ∈ (ofString "final static def print(x)").declarations,
        s.kind = .function ∧ s.name = "print" ∧ s.nameStart = 17 := by
  have hlist : (ofString "final static def print(x)").declarations =
      [⟨.function, "print", 6, 17, 25⟩] := by cbv
  have hdefinition : DefinitionAt "final static def print(x)".toList "print".toList 13 17 22 :=
    ⟨[' '], [], "x)".toList, ⟨by decide, space_mem_gap, mem_names_of_all (by decide),
      nil_mem_blanks⟩, by decide, by decide⟩
  have hmodifier : ∀ k ∈ Kind.modifiers .function,
      k.toList ++ [' '] ∈ oneOf (Kind.modifiers .function) * gap :=
    fun k hk => Language.append_mem_mul (mem_oneOf.mpr (List.mem_map_of_mem hk)) space_mem_gap
  have hlead : ["final ".toList, "static ".toList].flatten ∈ lead := by
    refine Language.join_mem_kstar fun y hy => ?_
    rcases List.mem_pair.mp hy with rfl | rfl
    · exact hmodifier "final" (by decide)
    · exact hmodifier "static" (by decide)
  have honLine : OnLine "final static def print(x)".toList 1 13 22 :=
    ⟨0, [], _, [], LineAt.zero_of_not_mem (by decide), rfl, _,
      Language.append_mem_mul nil_mem_blanks hlead, by decide, by decide, by decide⟩
  have hmem : ⟨"print", 1, .function⟩ ∈
      (ofString "final static def print(x)").redefinitions ["print"] :=
    mem_redefinitions_function_iff.mpr ⟨by simp, 13, 17, 22, hdefinition, honLine⟩
  refine ⟨hmem, ?_⟩
  rcases ((redefinitions_agree_declarations _ _).1 _ hmem rfl).2 _ _ _ hdefinition honLine with
    hopen | hdeclared | ⟨e, he, -, hle, -⟩
  · exact absurd (by decide) hopen
  · exact hdeclared
  · rw [hlist, List.mem_singleton] at he
    subst he
    exact absurd hle (by decide)

end Source
end SpiceKit

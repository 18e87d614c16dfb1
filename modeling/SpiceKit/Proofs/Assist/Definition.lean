import SpiceKit.Assist
import SpiceKit.Proofs.Declaration.Order
import SpiceKit.Proofs.Source.Word

/-!
# Going to a definition

Go-to-definition puts four parts together: the word at a place, the scan for declarations, the rule
that says which of several declarations a name means, and the place of an offset. This file says
what comes out.

The rule is an order: `Declaration.precedence` puts classes before interfaces before functions and,
within a kind, what stands first. `resolve_least` says that a name means the least declaration
of that name. The rest is that a declared name is a whole word on one line, so **from its place,
and from every column that touches it, the same word is found again** (`wordAt_name`): going to a
definition twice is going there once.
-/

set_option autoImplicit false

namespace SpiceKit

/-! ## What a name means -/

def Kind.rank : Kind → Nat
  | .cls => 0
  | .interface => 1
  | .function => 2

namespace Declaration

/-- Which of two declarations of one name is meant: the lesser by kind, then by place. The kinds are
ordered as `Declaration.resolve` tries them, and `resolve_least` ties the two together. -/
def precedence (d : Declaration) : Nat ×ₗ Nat := toLex (d.kind.rank, d.start)

theorem precedence_le_iff {d e : Declaration} :
    d.precedence ≤ e.precedence ↔
      d.kind.rank < e.kind.rank ∨ d.kind.rank = e.kind.rank ∧ d.start ≤ e.start :=
  Prod.Lex.toLex_le_toLex

theorem exists_resolve_iff {declarations : List Declaration} {name : String} :
    (∃ d, resolve declarations name = some d) ↔ ∃ d ∈ declarations, d.name = name := by
  rw [← Option.isSome_iff_exists, resolve, List.isSome_findSome?, List.any_eq_true]
  constructor
  · rintro ⟨kind, -, hfound⟩
    obtain ⟨d, hmem, hd⟩ := List.find?_isSome.mp hfound
    exact ⟨d, hmem, (of_decide_eq_true hd).2⟩
  · rintro ⟨d, hmem, hname⟩
    refine ⟨d.kind, by cases d.kind <;> decide, List.find?_isSome.mpr ⟨d, hmem, ?_⟩⟩
    exact decide_eq_true ⟨rfl, hname⟩

theorem rank_pairwise : Kind.all.Pairwise fun a b => a.rank < b.rank := by decide

theorem find?_least {declarations : List Declaration}
    (hsorted : declarations.Pairwise fun a b => a.start < b.start) {p : Declaration → Bool}
    {d e : Declaration} (hfind : declarations.find? p = some d) (he : e ∈ declarations)
    (hpe : p e = true) : d.start ≤ e.start := by
  obtain ⟨-, before, behind, rfl, hbefore⟩ := List.find?_eq_some_iff_append.mp hfind
  rcases List.mem_append.mp he with hmem | hmem
  · have hnot := hbefore e hmem
    rw [hpe] at hnot
    cases hnot
  · rcases List.mem_cons.mp hmem with rfl | hmem
    · exact Nat.le_refl _
    · have hrest := (List.pairwise_append.mp hsorted).2.1
      exact ((List.pairwise_cons.mp hrest).1 e hmem).le

/-- **A name means the least declaration of that name.** Least is meant by `precedence` of kinds
first, then by the order of `declarations_pairwise`. -/
theorem resolve_least {declarations : List Declaration}
    (hsorted : declarations.Pairwise fun a b => a.start < b.start) {name : String}
    {d : Declaration} (h : resolve declarations name = some d) :
    d ∈ declarations ∧ d.name = name ∧
      ∀ e ∈ declarations, e.name = name → d.precedence ≤ e.precedence := by
  obtain ⟨earlier, kind, later, hall, hfind, hearlier⟩ := List.findSome?_eq_some_iff.mp h
  have hfound := List.find?_some hfind
  simp only [decide_eq_true_eq] at hfound
  obtain ⟨rfl, hname⟩ := hfound
  refine ⟨List.mem_of_find?_eq_some hfind, hname, fun e he hename => ?_⟩
  have hrank := rank_pairwise
  rw [hall, List.pairwise_append, List.pairwise_cons] at hrank
  have hkind : e.kind ∈ earlier ++ d.kind :: later := hall ▸ (by cases e.kind <;> decide)
  rw [precedence_le_iff]
  rcases List.mem_append.mp hkind with hmem | hmem
  · have hnone := List.find?_eq_none.mp (hearlier _ hmem) e he
    exact absurd (decide_eq_true ⟨rfl, hename⟩) hnone
  · rcases List.mem_cons.mp hmem with heq | hmem
    · exact Or.inr ⟨by rw [heq], find?_least hsorted hfind he (decide_eq_true ⟨heq, hename⟩)⟩
    · exact Or.inl (hrank.2.1.1 _ hmem)

end Declaration

/-! ## The declared name, found again -/

namespace Source

open Text Declaration

/-- **From its place and every column that touches it, a declared name is found again.** The name of
a declaration is a run, and `wordAt_of_lineAt` finds the run of a place. -/
theorem wordAt_name {source : Source} {d : Declaration} (hd : d ∈ source.declarations) {c : Int}
    (hle : (source.positionAt d.nameStart).column ≤ c)
    (hle' : c ≤ (source.positionAt d.nameStart).column + d.name.length) :
    ∃ span, source.wordAt ⟨(source.positionAt d.nameStart).line, c⟩ = some span ∧
      span.word = d.name := by
  obtain ⟨before, after, rest, hwritten⟩ := exists_written hd
  have hrun := hwritten.run_name
  have hlt := hrun.lt
  have hstop := hrun.stop_le
  obtain ⟨i, above, line, below, column, hline, hoffset, hcolumn⟩ :=
    exists_lineAt_of_le (show d.nameStart ≤ source.text.length by omega)
  have hslice := slice_name hd
  rw [hoffset, positionAt_of_lineAt hline hcolumn] at hle hle' ⊢
  simp only at hle hle'
  rw [hoffset] at hrun hslice
  -- The name lies on the line that it starts on, so it is a run of that line.
  have hinside := hrun.stop_le_of_lineAt hline hcolumn
  rw [Nat.add_assoc] at hrun hslice
  have hrun' := (run_of_lineAt hline (by omega)).mp hrun
  refine ⟨spanOf above line column (column + d.name.length), ?_, ?_⟩
  · exact (wordAt_of_lineAt hline).mpr ⟨_, _, hrun', hle, by omega, rfl⟩
  · rw [slice_of_lineAt hline (by omega) (by omega)] at hslice
    rw [spanOf, hslice, String.ofList_toList]

end Source

/-! ## Going there -/

namespace Assist

open Source Declaration

def targetOf (source : Source) (d : Declaration) : Target :=
  { offset := d.nameStart, position := source.positionAt d.nameStart }

theorem definition_eq_some_iff {source : Source} {position : Position} {target : Target} :
    definition source position = some target ↔
      ∃ word d, source.Touches word position ∧ resolve source.declarations word = some d ∧
        target = targetOf source d := by
  simp only [definition, Option.bind_eq_bind, Option.bind_eq_some_iff, Option.pure_def,
    Option.some.injEq]
  constructor
  · rintro ⟨span, hspan, d, hresolve, rfl⟩
    exact ⟨span.word, d, touches_iff.mpr ⟨span, hspan, rfl⟩, hresolve, rfl⟩
  · rintro ⟨word, d, htouch, hresolve, rfl⟩
    obtain ⟨span, hspan, rfl⟩ := touches_iff.mp htouch
    exact ⟨span, hspan, d, hresolve, rfl⟩

/-- From the place of a meant name, and from every column that touches it, the way leads back.
`targetOf` is the place that a declaration is shown at, and `wordAt_name` finds its name there. -/
theorem definition_targetOf {source : Source} {d : Declaration}
    (h : resolve source.declarations d.name = some d) {c : Int}
    (hle : (targetOf source d).position.column ≤ c)
    (hle' : c ≤ (targetOf source d).position.column + d.name.length) :
    definition source ⟨(targetOf source d).position.line, c⟩ = some (targetOf source d) := by
  have hd := (resolve_least source.declarations_pairwise h).1
  obtain ⟨span, hspan, hword⟩ := wordAt_name hd hle hle'
  exact definition_eq_some_iff.mpr ⟨d.name, d, touches_iff.mpr ⟨span, hspan, hword⟩, h, rfl⟩

/-- **A definition is found for every word that is declared, and going there is final.** Something
is found exactly when a word touches the place and is declared. The target is then the name of the
least declaration of that word by kind and place; the word stands there; the place and the offset of
the target agree; and from every column that touches the target the answer is that target. That
going there is final is `definition_targetOf`; that the least one is meant is `resolve_least`. -/
theorem definition_least_idempotent (source : Source) (position : Position) :
    ((∃ target, definition source position = some target) ↔
      ∃ word, source.Touches word position ∧ ∃ d ∈ source.declarations, d.name = word) ∧
    ∀ target, definition source position = some target →
      ∃ word, source.Touches word position ∧
        (∃ d ∈ source.declarations, d.name = word ∧ target.offset = d.nameStart ∧
          ∀ e ∈ source.declarations, e.name = word → d.precedence ≤ e.precedence) ∧
        word.toList <+: source.text.drop target.offset ∧
        source.offsetAt target.position = target.offset ∧
        ∀ c : Int, target.position.column ≤ c → c ≤ target.position.column + word.length →
          definition source ⟨target.position.line, c⟩ = some target := by
  constructor
  · constructor
    · rintro ⟨target, htarget⟩
      obtain ⟨word, d, htouch, hresolve, -⟩ := definition_eq_some_iff.mp htarget
      exact ⟨word, htouch, exists_resolve_iff.mp ⟨d, hresolve⟩⟩
    · rintro ⟨word, htouch, hdeclared⟩
      obtain ⟨d, hresolve⟩ := exists_resolve_iff.mpr hdeclared
      exact ⟨_, definition_eq_some_iff.mpr ⟨word, d, htouch, hresolve, rfl⟩⟩
  · intro target htarget
    obtain ⟨word, d, htouch, hresolve, rfl⟩ := definition_eq_some_iff.mp htarget
    obtain ⟨hd, rfl, hleast⟩ := resolve_least source.declarations_pairwise hresolve
    obtain ⟨before, after, rest, hwritten⟩ := exists_written hd
    have hend : d.nameStart ≤ source.endOffset := by
      have hname := name_le_stop hd
      have hstop := stop_le_endOffset hd
      omega
    refine ⟨d.name, htouch, ⟨d, hd, rfl, rfl, hleast⟩, ?_, offsetAt_positionAt hend, ?_⟩
    · exact ⟨after ++ rest, hwritten.drop_nameStart.symm⟩
    · exact fun c hle hle' => definition_targetOf hresolve hle hle'

set_option maxRecDepth 8000 in
/-- A function and a class of one name: from the function one goes to the class, and stays there. -/
theorem definition_least_idempotent_class :
    definition (Source.ofString "def a()\nclass a") ⟨0, 5⟩ = some ⟨14, ⟨1, 6⟩⟩ ∧
      definition (Source.ofString "def a()\nclass a") ⟨1, 6⟩ = some ⟨14, ⟨1, 6⟩⟩ := by
  have htarget : definition (Source.ofString "def a()\nclass a") ⟨0, 5⟩ =
      some ⟨14, ⟨1, 6⟩⟩ := by cbv
  obtain ⟨word, -, -, -, -, hsame⟩ := (definition_least_idempotent _ _).2 _ htarget
  exact ⟨htarget, hsame 6 (Int.le_refl _) (by simp only; omega)⟩

end Assist
end SpiceKit

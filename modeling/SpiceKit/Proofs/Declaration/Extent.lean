import SpiceKit.Proofs.Declaration.Scan
import SpiceKit.Proofs.Declaration.Shape
import SpiceKit.Proofs.Source.Braces

/-!
# How far a declaration reaches

A declaration covers the text from its first modifier to the end of the first block at or behind
that place. Its header is found by a grammar, its end by counting braces, and the two do not know of
each other: a brace in a parameter list counts like any other.

So a declaration covers its header **unless a whole block stands in its parameter list**, and then
it ends with that block (`stop_covers_header`). Classes and interfaces have no place for a brace in
their headers, and a function whose parameter list leaves its first block open is covered as well:
the block goes on behind the list.
-/

set_option autoImplicit false

namespace SpiceKit

open Text Scan Declaration

namespace Kind

/-- A whole block stands in the parameter list of a header: the first brace that opens in the list
is closed in it. The block ends so many characters behind the front of the header. What happens
within the list is `FirstBlock`, by the braces in it alone. -/
def ListsBlock (kind : Kind) (header : List Char) (size : Nat) : Prop :=
  kind = .function ∧ ∃ lead parameters tail before inside after,
    ListedAs header lead parameters tail ∧ Source.FirstBlock parameters before inside after ∧
      size = lead.length + 1 + (before.length + 1 + inside.length)

theorem closeFrom_listed {header lead parameters tail : List Char}
    (h : ListedAs header lead parameters tail) (start : Nat) :
    Source.closeFrom 0 start header =
      Source.closeFrom 0 (start + (lead.length + 1)) parameters := by
  have hopen : '{' ∉ lead ++ ['('] := by
    intro hmem
    rcases List.mem_append.mp hmem with hmem | hmem
    · exact absurd (h.lead_plain _ hmem) (by decide)
    · exact absurd (List.mem_singleton.mp hmem) (by decide)
  have hclose : '}' ∉ ')' :: tail := by
    intro hmem
    rcases List.mem_cons.mp hmem with hmem | hmem
    · exact absurd hmem (by decide)
    · exact absurd (h.tail_plain _ hmem) (by decide)
  have hsplit : header = (lead ++ ['(']) ++ (parameters ++ ')' :: tail) := by
    rw [h.split, List.append_assoc, List.singleton_append]
  rw [hsplit, Source.closeFrom_append hopen, Source.closeFrom_append_of_not_mem hclose,
    List.length_append, List.length_singleton]

/-- The block that closes within a header is one that its parameter list holds (`ListsBlock`),
because outside the list there are plain characters only. -/
theorem closeFrom_header_eq_some_iff {kind : Kind} {header : List Char} (h : header ∈ kind.language)
    (start : Nat) {stop : Nat} : Source.closeFrom 0 start header = some stop ↔
      ∃ size, kind.ListsBlock header size ∧ stop = start + size := by
  constructor
  · intro hclose
    rcases shape_of_mem_language h with ⟨-, hplain⟩ | ⟨rfl, lead, parameters, tail, hlisted⟩
    · have hnone : '{' ∉ header := fun hmem => absurd (hplain _ hmem) (by decide)
      rw [Source.closeFrom_zero_of_not_mem hnone] at hclose
      cases hclose
    · rw [closeFrom_listed hlisted] at hclose
      obtain ⟨before, inside, after, hblock, rfl⟩ := Source.closeFrom_zero_eq_some_iff.mp hclose
      exact ⟨_, ⟨rfl, lead, parameters, tail, before, inside, after, hlisted, hblock, rfl⟩,
        by omega⟩
  · rintro ⟨size, ⟨rfl, lead, parameters, tail, before, inside, after, hlisted, hblock, rfl⟩, rfl⟩
    rw [closeFrom_listed hlisted]
    exact Source.closeFrom_zero_eq_some_iff.mpr ⟨before, inside, after, hblock, by omega⟩

theorem ListsBlock.lt_length {kind : Kind} {header : List Char} {size : Nat}
    (h : kind.ListsBlock header size) : size < header.length := by
  obtain ⟨-, lead, parameters, tail, before, inside, after, hlisted, hblock, rfl⟩ := h
  have hheader := congrArg List.length hlisted.split
  have hlist := congrArg List.length hblock.split
  simp only [List.length_append, List.length_cons] at hheader hlist
  omega

end Kind

namespace Source

theorem exists_longestAt {source : Source} {d : Declaration} (hd : d ∈ source.declarations) :
    ∃ header stop, d.kind.LongestAt source.text d.start header stop := by
  obtain ⟨hit, hitem, heq⟩ := mem_ofKind (mem_declarations.mp hd)
  rw [congrArg Declaration.start heq]
  exact ⟨_, _, Kind.longestAt_of_itemAt hitem⟩

/-- **A declaration covers its header unless a whole block stands in its parameter list.** The
header is the longest text of the declaration's kind at its place. Where its parameter list holds a
whole block, the declaration ends with that block, inside the header; everywhere else, and so for
every class and every interface, it ends at or behind the end of the header. Longest is meant as in
`LongestAt`; the exception is `ListsBlock`. -/
theorem stop_covers_header (source : Source) :
    ∀ d ∈ source.declarations, ∃ header stop,
      d.kind.LongestAt source.text d.start header stop ∧
      (stop ≤ d.stop ↔ ∀ size, ¬ d.kind.ListsBlock header size) ∧
      ∀ size, d.kind.ListsBlock header size → d.stop = d.start + size := by
  intro d hd
  obtain ⟨header, stop, hlongest⟩ := exists_longestAt hd
  obtain ⟨rest, hrest⟩ := hlongest.here
  obtain ⟨before, after, tail, hwritten⟩ := exists_written hd
  have hcases := source.blockEnd_append_cases hrest.symm hwritten.start_lt.le
  rw [← stop_eq_blockEnd hd] at hcases
  have hends : ∀ size, d.kind.ListsBlock header size → d.stop = d.start + size := by
    intro size hlists
    have hclose := (Kind.closeFrom_header_eq_some_iff hlongest.mem d.start).mpr ⟨size, hlists, rfl⟩
    rcases hcases with hsome | ⟨hnone, -⟩
    · exact Option.some.inj (hsome.symm.trans hclose)
    · rw [hnone] at hclose
      cases hclose
  refine ⟨header, stop, hlongest, ⟨fun hle size hlists => ?_, fun hnone => ?_⟩, hends⟩
  · have hstop := hends size hlists
    have hlt := hlists.lt_length
    have hend := hlongest.stop_eq
    omega
  · rcases hcases with hsome | ⟨-, hle⟩
    · obtain ⟨size, hlists, -⟩ := (Kind.closeFrom_header_eq_some_iff hlongest.mem _).mp hsome
      exact absurd hlists (hnone size)
    · rw [hlongest.stop_eq]
      exact hle

set_option maxRecDepth 4000 in
/-- A parameter list that opens a block and leaves it open: the braces of the body close it, and the
declaration, which ends behind the last of them, covers its header. -/
theorem stop_covers_header_open_list :
    (Source.ofString "def f(a=\x7b) -> int \x7b\x7d\x7d").declarations =
        [⟨.function, "f", 0, 4, 21⟩] ∧
      ∃ header stop, Kind.LongestAt .function
        (Source.ofString "def f(a=\x7b) -> int \x7b\x7d\x7d").text 0 header stop ∧
        (∀ size, ¬ Kind.ListsBlock .function header size) ∧ stop ≤ 21 := by
  have hlist : (Source.ofString "def f(a=\x7b) -> int \x7b\x7d\x7d").declarations =
      [⟨.function, "f", 0, 4, 21⟩] := by cbv
  have hmem : ⟨.function, "f", 0, 4, 21⟩ ∈
      (Source.ofString "def f(a=\x7b) -> int \x7b\x7d\x7d").declarations := by
    rw [hlist]
    exact List.mem_cons_self
  obtain ⟨header, stop, hlongest, hcovers, hends⟩ := stop_covers_header _ _ hmem
  have hnone : ∀ size, ¬ Kind.ListsBlock .function header size := by
    intro size hlists
    have hstop : 21 = 0 + size := hends size hlists
    have hlt := hlists.lt_length
    have hle : header.length ≤ 21 := hlongest.here.length_le
    omega
  exact ⟨hlist, header, stop, hlongest, hnone, hcovers.mpr hnone⟩

set_option maxRecDepth 4000 in
/-- It is not so that every declaration covers its header: a default value in braces ends the
declaration inside the parameter list. -/
theorem not_stop_covers_every_header :
    ¬ ∀ (source : Source), ∀ d ∈ source.declarations, ∀ header stop,
      d.kind.LongestAt source.text d.start header stop → stop ≤ d.stop := by
  intro hall
  have hlist : (Source.ofString "def f(a=\x7b\x7d)").declarations = [⟨.function, "f", 0, 4, 10⟩] := by
    cbv
  have hmem : ⟨.function, "f", 0, 4, 10⟩ ∈
      (Source.ofString "def f(a=\x7b\x7d)").declarations := by
    rw [hlist]
    exact List.mem_cons_self
  obtain ⟨header, stop, hlongest⟩ := exists_longestAt hmem
  have hle := hall _ _ hmem _ _ hlongest
  have hheader : "def f(a=\x7b\x7d)".toList ∈ Kind.language .function := by
    have hname : ['f'] ∈ names := mem_names_of_all (by decide)
    have hlist : ')' ∉ "a=\x7b\x7d".toList := by decide
    exact Kind.bare_function_mem_language space_mem_gap hname nil_mem_blanks hlist
  have hlength := hlongest.longest _ hheader (List.prefix_refl _)
  have hstop := hlongest.stop_eq
  have heleven : "def f(a=\x7b\x7d)".toList.length = 11 := by decide
  simp only at hle hstop
  omega

end Source
end SpiceKit

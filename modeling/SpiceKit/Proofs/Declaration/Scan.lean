import SpiceKit.Proofs.Declaration.Order

/-!
# Declarations are the greedy scan of their grammar

The declarations of a kind are what one gets by going through the text from the left with nothing
but the language of that kind in hand: find the least place, at or behind the end of the last
header, where no word runs in and some header stands; take the longest one; go on behind it.

`filterKind_declarations` first undoes the merge: picking one kind out of the sorted list gives back
the scan of that kind, untouched. The rest is `Scan.Leftmost` carried from the reader to the
language, where `Kind.header?_longest` and `Kind.header?_sound` are the two directions.
-/

set_option autoImplicit false

namespace SpiceKit

open Text Scan Declaration

/-! ## The scan by the language -/

namespace Kind

/-- The longest header of a kind at an offset into which no word runs. A text has one wherever it
has a header at all (`exists_longestAt_iff`), and the `Leftmost` list of these is what a scan finds. -/
structure LongestAt (kind : Kind) (text : List Char) (i : Nat) (header : List Char) (stop : Nat) :
    Prop where
  boundary : Boundary text i
  mem : header ∈ kind.language
  here : header <+: text.drop i
  longest : ∀ other ∈ kind.language, other <+: text.drop i → other.length ≤ header.length
  stop_eq : stop = i + header.length

/-- The declaration that a header found by the scan makes: it starts where the header starts, the
header is an opening, the declared name and a closing, and however it is divided in that way, the
name is the same and stands at the same place (`opening_unique`). -/
structure Declares (kind : Kind) (d : Declaration) (hit : Hit (List Char)) : Prop where
  start_eq : d.start = hit.start
  divided : ∃ before ∈ kind.opening, d.name.toList ∈ names ∧ ∃ after ∈ kind.closing,
    hit.value = before ++ (d.name.toList ++ after) ∧ d.nameStart = hit.start + before.length
  unique : ∀ before ∈ kind.opening, ∀ n ∈ names, ∀ after ∈ kind.closing,
    hit.value = before ++ (n ++ after) →
      d.name.toList = n ∧ d.nameStart = hit.start + before.length

theorem mem_language {kind : Kind} {p : List Char} :
    p ∈ kind.language ↔ ∃ before ∈ kind.opening, ∃ n ∈ names, ∃ after ∈ kind.closing,
      p = before ++ (n ++ after) := by
  constructor
  · intro h
    obtain ⟨before, hbefore, b, hb, rfl⟩ := Language.mem_mul.mp h
    obtain ⟨n, hn, after, hafter, rfl⟩ := Language.mem_mul.mp hb
    exact ⟨before, hbefore, n, hn, after, hafter, rfl⟩
  · rintro ⟨before, hbefore, n, hn, after, hafter, rfl⟩
    exact Language.append_mem_mul hbefore (Language.append_mem_mul hn hafter)

/-- Where some header stands, there is a longest one, and it is what the reader finds. That it is
the longest is `header?_longest`. -/
theorem exists_itemAt {kind : Kind} {text p : List Char} {i : Nat} (hbound : Boundary text i)
    (hp : p ∈ kind.language) (hpre : p <+: text.drop i) :
    ∃ header, ItemAt (readHeader kind) text i header (i + header.size) := by
  obtain ⟨q, hq⟩ := hpre
  obtain ⟨header, hheader, -⟩ := header?_longest hp q
  refine ⟨header, itemAt_readHeader_iff.mpr ⟨?_, hbound, hq ▸ hheader, rfl⟩⟩
  obtain ⟨before, hbefore, n, -, after, -, rfl⟩ := mem_language.mp hp
  have hpos := List.length_pos_iff.mpr (opening_ne_nil hbefore)
  have hlength := congrArg List.length hq
  simp only [List.length_append, List.length_drop] at hlength
  omega

theorem slice_of_itemAt {kind : Kind} {source : Source} {hit : Hit Header}
    (h : ItemAt (readHeader kind) source.text hit.start hit.value hit.stop) :
    ∃ before ∈ kind.opening, ∃ after ∈ kind.closing, hit.value.name ∈ names ∧
      source.slice hit.start hit.stop = before ++ (hit.value.name ++ after) ∧
      source.slice hit.start hit.stop <+: source.text.drop hit.start ∧
      hit.value.nameAt = before.length ∧
      hit.stop = hit.start + (source.slice hit.start hit.stop).length := by
  obtain ⟨-, -, hheader, hstop⟩ := itemAt_readHeader_iff.mp h
  obtain ⟨before, hbefore, after, hafter, rest, hsplit, hname, -, hnameAt, hsize⟩ :=
    header?_sound hheader
  have hlength : (before ++ (hit.value.name ++ after)).length = hit.value.size := by
    simp only [List.length_append]
    omega
  have hdrop : source.text.drop hit.start = before ++ (hit.value.name ++ after) ++ rest := by
    rw [← hsplit]
    simp only [List.append_assoc]
  have hslice : source.slice hit.start hit.stop = before ++ (hit.value.name ++ after) := by
    unfold Source.slice
    rw [hstop, Nat.add_sub_cancel_left, hdrop, ← hlength, List.take_left]
  refine ⟨before, hbefore, after, hafter, hname, hslice, ?_, hnameAt, ?_⟩
  · exact ⟨rest, by rw [hslice, hdrop]⟩
  · rw [hslice, hlength, hstop]

theorem longestAt_of_itemAt {kind : Kind} {source : Source} {hit : Hit Header}
    (h : ItemAt (readHeader kind) source.text hit.start hit.value hit.stop) :
    kind.LongestAt source.text hit.start (source.slice hit.start hit.stop) hit.stop := by
  obtain ⟨-, hbound, hheader, hsize⟩ := itemAt_readHeader_iff.mp h
  obtain ⟨before, hbefore, after, hafter, hname, hslice, hpre, -, hstop⟩ := slice_of_itemAt h
  refine ⟨hbound, mem_language.mpr ⟨before, hbefore, _, hname, after, hafter, hslice⟩, hpre, ?_,
    hstop⟩
  rintro other hother ⟨q, hq⟩
  obtain ⟨header, hheader', hle⟩ := header?_longest hother q
  rw [hq, hheader] at hheader'
  obtain rfl := Option.some.inj hheader'
  omega

theorem declares_ofHit {kind : Kind} {source : Source} {hit : Hit Header}
    (h : ItemAt (readHeader kind) source.text hit.start hit.value hit.stop) :
    kind.Declares (ofHit source kind hit)
      ⟨hit.start, hit.stop, source.slice hit.start hit.stop⟩ := by
  obtain ⟨before, hbefore, after, hafter, hname, hslice, -, hnameAt, -⟩ := slice_of_itemAt h
  refine ⟨rfl, ⟨before, hbefore, ?_, after, hafter, ?_, ?_⟩, ?_⟩
  · rwa [ofHit, String.toList_ofList]
  · rwa [ofHit, String.toList_ofList]
  · rw [ofHit, hnameAt]
  · intro before' hbefore' n hn after' hafter' hvalue
    obtain ⟨rfl, rfl⟩ := opening_unique hbefore hbefore' hname hn (kind.stops_closing _ hafter)
      (kind.stops_closing _ hafter') (hslice.symm.trans hvalue)
    rw [ofHit, hnameAt, String.toList_ofList]
    exact ⟨rfl, rfl⟩

theorem LongestAt.unique {kind : Kind} {text header header' : List Char} {i stop stop' : Nat}
    (h : kind.LongestAt text i header stop) (h' : kind.LongestAt text i header' stop') :
    header = header' ∧ stop = stop' := by
  have hlength : header.length = header'.length :=
    Nat.le_antisymm (h'.longest header h.mem h.here) (h.longest header' h'.mem h'.here)
  have hsame : header = header' :=
    (List.prefix_of_prefix_length_le h.here h'.here hlength.le).eq_of_length hlength
  exact ⟨hsame, by rw [h.stop_eq, h'.stop_eq, hsame]⟩

/-- A header stands somewhere if and only if a longest one does. The scan passes over places without
one and misses none by that. `LongestAt` says what a header is at a place; `language` all texts that
may stand there. -/
theorem exists_longestAt_iff {kind : Kind} {source : Source} {i : Nat} :
    (∃ header stop, kind.LongestAt source.text i header stop) ↔
      Boundary source.text i ∧ ∃ p ∈ kind.language, p <+: source.text.drop i := by
  constructor
  · rintro ⟨header, stop, h⟩
    exact ⟨h.boundary, header, h.mem, h.here⟩
  · rintro ⟨hbound, p, hp, hpre⟩
    obtain ⟨header, hitem⟩ := exists_itemAt hbound hp hpre
    exact ⟨_, _, @longestAt_of_itemAt kind source ⟨i, _, header⟩ hitem⟩

end Kind

/-! ## The merge undone -/

namespace Declaration

theorem filter_ofKind (source : Source) (keep : Kind → Bool) (kind : Kind) :
    ((ofKind source kind).filter fun d => keep d.kind) =
      if keep kind then ofKind source kind else [] := by
  split
  · rename_i hkeep
    refine List.filter_eq_self.mpr fun d hd => ?_
    obtain ⟨_, -, rfl⟩ := mem_ofKind hd
    exact hkeep
  · rename_i hkeep
    refine List.filter_eq_nil_iff.mpr fun d hd => ?_
    obtain ⟨_, -, rfl⟩ := mem_ofKind hd
    exact hkeep

/-- Declarations of some kinds, picked out of the sorted list, are those of the scans of these
kinds, in some order. For a single kind the order is that of the scan (`filterKind_declarations`). -/
theorem filter_declarations_perm (source : Source) (keep : Kind → Bool) :
    (source.declarations.filter fun d => keep d.kind).Perm
      (Kind.all.flatMap fun kind => if keep kind then ofKind source kind else []) := by
  refine ((List.mergeSort_perm _ _).filter _).trans (List.Perm.of_eq ?_)
  rw [List.filter_flatMap]
  exact List.flatMap_congr fun kind _ => filter_ofKind source keep kind

theorem filterKind_declarations (source : Source) (kind : Kind) :
    filterKind kind source.declarations = ofKind source kind := by
  have hperm : (filterKind kind source.declarations).Perm (ofKind source kind) := by
    refine (filter_declarations_perm source (· = kind)).trans (List.Perm.of_eq ?_)
    cases kind <;> simp [Kind.all]
  have hsorted : (ofKind source kind).Pairwise fun a b => a.start < b.start := by
    refine (ofKind_pairwise source kind).imp_of_mem fun {a b} ha _ hle => ?_
    obtain ⟨_, -, rfl⟩ := mem_ofKind ha
    have := Source.start_lt_nameStart (Source.mem_declarations.mpr ha)
    omega
  refine hperm.eq_of_pairwise (fun a b _ _ hab hba => ?_) (source.declarations_pairwise.filter _)
    hsorted
  exact absurd hab (by omega)

/-- **The declarations of a kind are the greedy scan of the text by its language.** There is exactly
one list of headers in which each is the longest at the least place, at or behind the end of the one
before, where no word runs in and some header stands; and the declarations of the kind are, one by
one and in order, those that these headers make. The list is `Leftmost` for `LongestAt`, and what a
header makes is `Declares`. -/
theorem filterKind_declarations_leftmost (source : Source) (kind : Kind) :
    (∀ i, (∃ header stop, kind.LongestAt source.text i header stop) ↔
        Boundary source.text i ∧ ∃ p ∈ kind.language, p <+: source.text.drop i) ∧
      ∃ scan : List (Hit (List Char)), Leftmost (kind.LongestAt source.text) 0 scan ∧
        (∀ other, Leftmost (kind.LongestAt source.text) 0 other → other = scan) ∧
        List.Forall₂ kind.Declares (filterKind kind source.declarations) scan := by
  refine ⟨fun i => Kind.exists_longestAt_iff, ?_⟩
  have hscan := hits_leftmost (advances_readHeader kind) source.text
  have hlongest : Leftmost (kind.LongestAt source.text) 0
      ((hits (readHeader kind) source.text).map fun hit =>
        ⟨hit.start, hit.stop, source.slice hit.start hit.stop⟩) := by
    refine hscan.map strictMono_id (fun _ => rfl) (fun _ => rfl)
      (fun hit hitem => Kind.longestAt_of_itemAt hitem) fun {i' value' stop'} h => ?_
    obtain ⟨header, hitem⟩ := Kind.exists_itemAt h.boundary h.mem h.here
    exact ⟨i', header, _, rfl, hitem⟩
  refine ⟨_, hlongest, fun other hother => ?_, ?_⟩
  · exact hother.unique (fun h h' => h.unique h') hlongest
  · rw [filterKind_declarations, ofKind, List.forall₂_map_left_iff, List.forall₂_map_right_iff,
      List.forall₂_same]
    exact fun hit hmem => Kind.declares_ofHit (hscan.item_of_mem hit hmem)

end Declaration
end SpiceKit

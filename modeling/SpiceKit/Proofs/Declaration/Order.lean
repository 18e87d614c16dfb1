import Mathlib
import SpiceKit.Proofs.Declaration.Grammar
import SpiceKit.Proofs.Source.Block
import SpiceKit.Proofs.Text.Run

/-!
# The order of declarations

Three scans that know nothing of each other are merged by one sort on the place of the declaration.
The sort would keep ties in the order of the kinds; the point of this file is that **there are no
ties**, and that the names come in the same strict order as the declarations.

Both rest on what an opening looks like from inside (`Kind.opening_inner_start`): the only word that
starts within it is its keyword, and the keyword tells the kind (`Kind.opening_kind_unique`). So a
declaration that starts within the opening of another is of the same kind, and then the scan of that
kind, which never overlaps itself, could not have found both.
-/

set_option autoImplicit false

namespace SpiceKit

open Text Scan

/-! ## Openings from inside -/

namespace Kind

theorem mem_opening {kind : Kind} {before : List Char} :
    before ∈ kind.opening ↔ ∃ m ∈ optionally (oneOf kind.modifiers * gap), ∃ g ∈ gap,
      before = m ++ (kind.keyword.toList ++ g) := by
  constructor
  · intro h
    obtain ⟨m, hm, b, hb, rfl⟩ := Language.mem_mul.mp h
    obtain ⟨_, rfl, g, hg, rfl⟩ := Language.mem_mul.mp hb
    exact ⟨m, hm, g, hg, rfl⟩
  · rintro ⟨m, hm, g, hg, rfl⟩
    exact Language.append_mem_mul hm (Language.append_mem_mul (a := kind.keyword.toList) rfl hg)

theorem modifiers_subset (kind : Kind) : ∀ k ∈ kind.modifiers, k ∈ modifiers .function := by
  cases kind <;> decide

theorem eq_of_head?_keyword {kind kind' : Kind}
    (h : kind.keyword.toList.head? = kind'.keyword.toList.head?) : kind = kind' := by
  revert h
  cases kind <;> cases kind' <;> decide

/-- Behind the modifiers stands the keyword, read with the modifiers of all kinds together. This
puts openings of different kinds on one footing, so that `opening_kind_unique` can compare them. -/
theorem afterModifier_opening {kind : Kind} {m : List Char}
    (hm : m ∈ optionally (oneOf kind.modifiers * gap)) (rest : List Char) :
    Header.afterModifier (modifiers .function) (m ++ (kind.keyword.toList ++ rest)) =
      kind.keyword.toList ++ rest := by
  have hm' : m ∈ optionally (oneOf (modifiers .function) * gap) := by
    rcases mem_optionally.mp hm with rfl | hm
    · exact mem_optionally.mpr (Or.inl rfl)
    · obtain ⟨k, hk, g, hg, rfl⟩ := Language.mem_mul.mp hm
      obtain ⟨word, hword, rfl⟩ := List.mem_map.mp (mem_oneOf.mp hk)
      have hk' : word.toList ∈ oneOf (modifiers .function) :=
        mem_oneOf.mpr (List.mem_map_of_mem (kind.modifiers_subset word hword))
      exact mem_optionally.mpr (Or.inr (Language.append_mem_mul hk' hg))
  have hleaves := leaves_modifiers .function kind 1
  rw [mul_one] at hleaves
  exact Option.some.inj (hleaves m hm' _ rfl kind.keyword_ne_nil rest)

/-- **The opening tells the kind**: two openings at one place, each with a name behind it, are of
one kind. So two kinds never start at one place (`eq_of_start_eq`). -/
theorem opening_kind_unique {kind kind' : Kind} {before before' rest rest' : List Char}
    (hbefore : before ∈ kind.opening) (hbefore' : before' ∈ kind'.opening)
    (h : before ++ rest = before' ++ rest') : kind = kind' := by
  obtain ⟨m, hm, g, -, rfl⟩ := mem_opening.mp hbefore
  obtain ⟨m', hm', g', -, rfl⟩ := mem_opening.mp hbefore'
  simp only [List.append_assoc] at h
  have hkeyword := afterModifier_opening hm (g ++ rest)
  rw [h, afterModifier_opening hm'] at hkeyword
  have hhead := congrArg List.head? hkeyword
  rw [List.head?_append_of_ne_nil _ kind.keyword_ne_nil,
    List.head?_append_of_ne_nil _ kind'.keyword_ne_nil] at hhead
  exact (eq_of_head?_keyword hhead).symm

theorem opening_ne_nil {kind : Kind} {before : List Char} (h : before ∈ kind.opening) :
    before ≠ [] := by
  obtain ⟨m, -, g, -, rfl⟩ := mem_opening.mp h
  simp [kind.keyword_ne_nil]

theorem isBlank_or_isWordChar_of_mem_opening {kind : Kind} {before : List Char}
    (h : before ∈ kind.opening) : ∀ c ∈ before, isBlank c = true ∨ isWordChar c = true := by
  obtain ⟨m, hm, g, hg, rfl⟩ := mem_opening.mp h
  intro c hc
  simp only [List.mem_append] at hc
  rcases hc with hc | hc | hc
  · rcases mem_optionally.mp hm with rfl | hm
    · cases hc
    · obtain ⟨k, hk, g', hg', rfl⟩ := Language.mem_mul.mp hm
      rcases List.mem_append.mp hc with hc | hc
      · exact Or.inr ((kind.modifier_mem_names k hk).2 c hc)
      · exact Or.inl (hg'.2 c hc)
  · exact Or.inr (kind.keyword_mem_names.2 c hc)
  · exact Or.inl (hg.2 c hc)

theorem isWordAt_opening_zero {kind : Kind} {before : List Char} (h : before ∈ kind.opening)
    (rest : List Char) : isWordAt (before ++ rest) 0 = true := by
  obtain ⟨m, hm, g, -, rfl⟩ := mem_opening.mp h
  have hstart : ∀ n ∈ names, ∀ x, isWordAt (n ++ x) 0 = true := by
    intro n hn x
    have hpos := List.length_pos_iff.mpr hn.1
    rw [isWordAt_append_left hpos]
    exact isWordAt_of_mem_names hn hpos
  rcases mem_optionally.mp hm with rfl | hm
  · simpa using hstart _ kind.keyword_mem_names (g ++ rest)
  · obtain ⟨k, hk, g', -, rfl⟩ := Language.mem_mul.mp hm
    simpa using hstart k (kind.modifier_mem_names k hk) (g' ++ (kind.keyword.toList ++ (g ++ rest)))

theorem header?_eq_none_of_stops (kind : Kind) {cs : List Char} (h : Stops isWordChar cs) :
    kind.header? cs = none := by
  cases hread : kind.header? cs with
  | none => rfl
  | some header =>
    obtain ⟨before, hbefore, after, -, rest, hsplit, -⟩ := header?_sound hread
    have hword := isWordAt_opening_zero hbefore (header.name ++ (after ++ rest))
    rw [hsplit, stops_iff_isWordAt.mp h] at hword
    cases hword

theorem isWordAt_opening_last {kind : Kind} {before : List Char} (h : before ∈ kind.opening) :
    isWordAt before (before.length - 1) = false := by
  obtain ⟨m, -, g, hg, rfl⟩ := mem_opening.mp h
  have hpos := List.length_pos_iff.mpr hg.1
  rw [← List.append_assoc, List.length_append,
    show (m ++ kind.keyword.toList).length + g.length - 1 =
      (m ++ kind.keyword.toList).length + (g.length - 1) by omega,
    isWordAt_append_right]
  exact isWordAt_of_mem_blanks (mem_blanks.mpr hg.2) _

theorem not_start_in_word_gap {n g : List Char} (hn : n ∈ names) (hg : g ∈ gap) {j : Nat}
    (hpos : 0 < j) (hword : isWordAt (n ++ g) j = true) : isWordAt (n ++ g) (j - 1) = true := by
  rcases Nat.lt_or_ge n.length j with hgap | hname
  · obtain ⟨k, rfl⟩ := Nat.exists_eq_add_of_le hgap.le
    rw [isWordAt_append_right, isWordAt_of_mem_blanks (mem_blanks.mpr hg.2)] at hword
    cases hword
  · rw [isWordAt_append_left (by omega)]
    exact isWordAt_of_mem_names hn (by omega)

/-- **Within an opening, the only word that starts is the keyword.** Modifiers and gaps hold no
other start (`isWordAt`). -/
theorem opening_inner_start {kind : Kind} {before : List Char} (h : before ∈ kind.opening)
    {j : Nat} (hpos : 0 < j) (hword : isWordAt before j = true)
    (hbound : isWordAt before (j - 1) = false) :
    ∃ g ∈ gap, before.drop j = kind.keyword.toList ++ g := by
  obtain ⟨m, hm, g, hg, rfl⟩ := mem_opening.mp h
  rcases Nat.lt_trichotomy j m.length with hlt | rfl | hgt
  · -- Inside the modifier or the gap behind it.
    rcases mem_optionally.mp hm with rfl | hm
    · cases hlt
    · obtain ⟨k, hk, g', hg', rfl⟩ := Language.mem_mul.mp hm
      rw [isWordAt_append_left hlt] at hword
      rw [isWordAt_append_left (by omega),
        not_start_in_word_gap (kind.modifier_mem_names k hk) hg' hpos hword] at hbound
      cases hbound
  · exact ⟨g, hg, List.drop_left⟩
  · -- Inside the keyword or the gap behind it.
    obtain ⟨i, rfl⟩ := Nat.exists_eq_add_of_lt hgt
    rw [Nat.add_assoc, isWordAt_append_right] at hword
    rw [show m.length + i + 1 - 1 = m.length + (i + 1 - 1) by omega, isWordAt_append_right,
      not_start_in_word_gap kind.keyword_mem_names hg (by omega) hword] at hbound
    cases hbound

/-- From each word that starts within it, an opening goes on as an opening: the first such word is
the modifier, and the other one the keyword. `nameStart_lt_of_start_lt` uses it to compare two
declarations one of which starts inside the opening of the other. -/
theorem drop_mem_opening {kind : Kind} {before : List Char} (h : before ∈ kind.opening) {j : Nat}
    (hword : isWordAt before j = true) (hbound : ∀ i, i + 1 = j → isWordAt before i = false) :
    before.drop j ∈ kind.opening := by
  cases j with
  | zero => exact h
  | succ j =>
    obtain ⟨g, hg, hkeyword⟩ := opening_inner_start h (Nat.succ_pos j) hword (hbound j rfl)
    rw [hkeyword]
    exact mem_opening.mpr ⟨[], mem_optionally.mpr (Or.inl rfl), g, hg, rfl⟩

end Kind

/-! ## A declaration in its text -/

namespace Declaration

/-- A declaration as it is written: the text from its start on is an opening, its name, a closing
and a rest, the name does not go on, and no word runs into the declaration. Every fact about one
declaration is drawn from this (`exists_written`). -/
structure Written (text : List Char) (d : Declaration) (before after rest : List Char) : Prop where
  split : text.drop d.start = before ++ (d.name.toList ++ (after ++ rest))
  opening : before ∈ d.kind.opening
  name : d.name.toList ∈ names
  closing : after ∈ d.kind.closing
  stops : Stops isWordChar (after ++ rest)
  boundary : Boundary text d.start
  start_lt : d.start < text.length
  nameStart_eq : d.nameStart = d.start + before.length

theorem itemAt_readHeader_iff {kind : Kind} {text : List Char} {i stop : Nat} {header : Header} :
    ItemAt (readHeader kind) text i header stop ↔
      i < text.length ∧ Boundary text i ∧ kind.header? (text.drop i) = some header ∧
        stop = i + header.size := by
  unfold ItemAt readHeader
  constructor
  · rintro ⟨hlt, size, hread, rfl⟩
    cases hb : (charBefore text i).any isWordChar with
    | true => simp [hb] at hread
    | false =>
      simp only [hb, Bool.false_eq_true, if_false, Option.map_eq_some_iff, Prod.mk.injEq] at hread
      obtain ⟨_, hheader, rfl, rfl⟩ := hread
      exact ⟨hlt, (any_charBefore_eq_false_iff hlt.le).mp hb, hheader, rfl⟩
  · rintro ⟨hlt, hb, hheader, rfl⟩
    refine ⟨hlt, header.size, ?_, rfl⟩
    simp [(any_charBefore_eq_false_iff hlt.le).mpr hb, hheader]

theorem advances_readHeader (kind : Kind) : Advances (readHeader kind) := by
  intro before cs header size h
  unfold readHeader at h
  split at h
  · cases h
  · obtain ⟨_, hheader, hpair⟩ := Option.map_eq_some_iff.mp h
    obtain ⟨rfl, rfl⟩ := Prod.mk.inj hpair
    obtain ⟨_, _, _, _, _, _, hname, _, _, hsize⟩ := Kind.header?_sound hheader
    have := List.length_pos_iff.mpr hname.1
    omega

theorem written_of_itemAt {source : Source} {kind : Kind} {hit : Hit Header}
    (h : ItemAt (readHeader kind) source.text hit.start hit.value hit.stop) :
    ∃ before after rest, Written source.text (ofHit source kind hit) before after rest ∧
      hit.stop = hit.start + before.length + hit.value.name.length + after.length := by
  obtain ⟨hlt, hbound, hheader, hstop⟩ := itemAt_readHeader_iff.mp h
  obtain ⟨before, hbefore, after, hafter, rest, hsplit, hname, hstops, hnameAt, hsize⟩ :=
    Kind.header?_sound hheader
  refine ⟨before, after, rest, ⟨?_, hbefore, ?_, hafter, hstops, hbound, hlt, ?_⟩, by omega⟩
  · simpa [ofHit] using hsplit.symm
  · simpa [ofHit] using hname
  · simp [ofHit, hnameAt]

namespace Written

variable {text : List Char} {d : Declaration} {before after rest : List Char}

theorem drop_nameStart (h : Written text d before after rest) :
    text.drop d.nameStart = d.name.toList ++ (after ++ rest) := by
  rw [h.nameStart_eq, ← List.drop_drop, h.split, List.drop_left]

/-- The declared name is a whole word of the text. `Run` says so without mention of a header, and
go-to-definition finds the word by it (`wordAt_name`). -/
theorem run_name (h : Written text d before after rest) :
    Run text d.nameStart (d.nameStart + d.name.length) := by
  have hbound : Boundary text d.nameStart := by
    intro j hj
    have hlength := h.nameStart_eq
    have hpos := List.length_pos_iff.mpr (Kind.opening_ne_nil h.opening)
    rw [show j = d.start + (before.length - 1) by omega, ← isWordAt_drop, h.split,
      isWordAt_append_left (by omega)]
    exact Kind.isWordAt_opening_last h.opening
  have hrun := run_of_split h.name h.drop_nameStart hbound h.stops
  rwa [String.length_toList] at hrun

/-- No brace stands before the end of the name, so the block of a declaration opens behind it. With
`le_blockEnd` this puts the end of the declaration behind its name. -/
theorem not_mem_header (h : Written text d before after rest) :
    '\x7b' ∉ before ++ d.name.toList := by
  have hneither : isBlank '\x7b' = false ∧ isWordChar '\x7b' = false := by decide
  intro hmem
  rcases List.mem_append.mp hmem with hmem | hmem
  · rcases Kind.isBlank_or_isWordChar_of_mem_opening h.opening _ hmem with hc | hc
    · exact absurd hc (by simp [hneither.1])
    · exact absurd hc (by simp [hneither.2])
  · exact absurd (h.name.2 _ hmem) (by simp [hneither.2])

end Written

/-! ## One kind -/

theorem mem_ofKind {source : Source} {kind : Kind} {d : Declaration} (h : d ∈ ofKind source kind) :
    ∃ hit, ItemAt (readHeader kind) source.text hit.start hit.value hit.stop ∧
      d = ofHit source kind hit := by
  obtain ⟨hit, hmem, rfl⟩ := List.mem_map.mp h
  exact ⟨hit, (hits_leftmost (advances_readHeader kind) _).item_of_mem hit hmem, rfl⟩

/-- Of one kind, a declaration starts behind the name of the one before it, since the scan goes on
behind the whole header. It is `Leftmost.pairwise` with the headers as items. -/
theorem ofKind_pairwise (source : Source) (kind : Kind) :
    (ofKind source kind).Pairwise fun a b => a.nameStart + a.name.length ≤ b.start := by
  have hscan := hits_leftmost (advances_readHeader kind) source.text
  refine List.pairwise_map.mpr ((hscan.pairwise fun h => h.lt (advances_readHeader kind)).imp_of_mem
    fun {a b} ha _ hle => ?_)
  obtain ⟨before, after, rest, hwritten, hstop⟩ := written_of_itemAt (hscan.item_of_mem a ha)
  rw [hwritten.nameStart_eq]
  simp only [ofHit, String.length_ofList]
  omega

end Declaration

/-! ## All kinds -/

namespace Source

open Declaration

theorem mem_declarations {source : Source} {d : Declaration} :
    d ∈ source.declarations ↔ d ∈ ofKind source d.kind := by
  unfold declarations
  rw [List.mem_mergeSort, List.mem_flatMap]
  constructor
  · rintro ⟨kind, -, hd⟩
    obtain ⟨hit, -, rfl⟩ := mem_ofKind hd
    exact hd
  · intro hd
    exact ⟨d.kind, by cases d.kind <;> decide, hd⟩

theorem exists_written {source : Source} {d : Declaration} (hd : d ∈ source.declarations) :
    ∃ before after rest, Written source.text d before after rest := by
  obtain ⟨hit, hitem, heq⟩ := mem_ofKind (mem_declarations.mp hd)
  obtain ⟨before, after, rest, hwritten, -⟩ := written_of_itemAt hitem
  rw [← heq] at hwritten
  exact ⟨before, after, rest, hwritten⟩

theorem start_lt_nameStart {source : Source} {d : Declaration} (hd : d ∈ source.declarations) :
    d.start < d.nameStart := by
  obtain ⟨before, after, rest, hwritten⟩ := exists_written hd
  have := List.length_pos_iff.mpr (Kind.opening_ne_nil hwritten.opening)
  have := hwritten.nameStart_eq
  omega

theorem apart_of_kind_eq {source : Source} {d e : Declaration} (hd : d ∈ source.declarations)
    (he : e ∈ source.declarations) (hkind : d.kind = e.kind) (hne : d ≠ e) :
    d.nameStart + d.name.length ≤ e.start ∨ e.nameStart + e.name.length ≤ d.start := by
  have hpair : (ofKind source d.kind).Pairwise fun a b =>
      a.nameStart + a.name.length ≤ b.start ∨ b.nameStart + b.name.length ≤ a.start :=
    (ofKind_pairwise source d.kind).imp Or.inl
  have : Std.Symm fun a b : Declaration =>
      a.nameStart + a.name.length ≤ b.start ∨ b.nameStart + b.name.length ≤ a.start :=
    ⟨fun _ _ h => h.symm⟩
  exact hpair.forall (mem_declarations.mp hd) (hkind ▸ mem_declarations.mp he) hne

/-- **No two declarations start at the same place**, whatever their kinds: of one kind the scan has
moved on, and of two kinds `opening_kind_unique` rules it out. -/
theorem eq_of_start_eq {source : Source} {d e : Declaration} (hd : d ∈ source.declarations)
    (he : e ∈ source.declarations) (hstart : d.start = e.start) : d = e := by
  obtain ⟨before, after, rest, hwritten⟩ := exists_written hd
  obtain ⟨before', after', rest', hwritten'⟩ := exists_written he
  have hsplit := hwritten.split.symm.trans (hstart ▸ hwritten'.split)
  have hkind := Kind.opening_kind_unique hwritten.opening hwritten'.opening hsplit
  by_contra hne
  have hlt := start_lt_nameStart hd
  have hlt' := start_lt_nameStart he
  rcases apart_of_kind_eq hd he hkind hne with hle | hle
  · omega
  · omega

/-- **Names come in the order of their declarations**, also where one declaration starts within the
opening of another, as a function does that starts at the modifier or the keyword of a class. That
case is `drop_mem_opening`; in all others a header is over before the next one starts. -/
theorem nameStart_lt_of_start_lt {source : Source} {d e : Declaration}
    (hd : d ∈ source.declarations) (he : e ∈ source.declarations) (hlt : d.start < e.start) :
    d.nameStart < e.nameStart := by
  have hbehind := start_lt_nameStart he
  suffices hle : d.nameStart ≤ e.start by omega
  by_contra hinside
  obtain ⟨before, after, rest, hwritten⟩ := exists_written hd
  obtain ⟨before', after', rest', hwritten'⟩ := exists_written he
  obtain ⟨j, hj⟩ := Nat.exists_eq_add_of_lt hlt
  have hlength := hwritten.nameStart_eq
  -- `e` starts a word within the opening of `d`, so an opening of the kind of `d` starts there too.
  have hword : isWordAt before (j + 1) = true := by
    rw [← isWordAt_append_left (by omega), ← hwritten.split, isWordAt_drop,
      show d.start + (j + 1) = e.start + 0 by omega, ← isWordAt_drop, hwritten'.split]
    exact Kind.isWordAt_opening_zero hwritten'.opening _
  have hbound : ∀ i, i + 1 = j + 1 → isWordAt before i = false := by
    intro i hi
    rw [← isWordAt_append_left (by omega), ← hwritten.split, isWordAt_drop]
    exact hwritten'.boundary _ (by omega)
  have hopening := Kind.drop_mem_opening hwritten.opening hword hbound
  have hdrop : source.text.drop e.start =
      before.drop (j + 1) ++ (d.name.toList ++ (after ++ rest)) := by
    rw [show e.start = d.start + (j + 1) by omega, ← List.drop_drop, hwritten.split,
      List.drop_append_of_le_length (by omega)]
  have hkind := Kind.opening_kind_unique hopening hwritten'.opening
    (hdrop.symm.trans hwritten'.split)
  have hne : d ≠ e := fun heq => by simp [heq] at hlt
  rcases apart_of_kind_eq hd he hkind hne with hle | hle
  · omega
  · omega

/-- The starts are distinct before they are sorted: within a kind the scan moves on, and between two
kinds the openings differ. So `declarations_pairwise` gets a strict order out of the sort. -/
theorem flatMap_ofKind_pairwise (source : Source) :
    (Kind.all.flatMap (ofKind source)).Pairwise fun a b => a.start ≠ b.start := by
  refine List.pairwise_flatMap.mpr ⟨fun kind _ => ?_, ?_⟩
  · refine (ofKind_pairwise source kind).imp_of_mem fun {a b} ha hb hle heq => ?_
    obtain ⟨_, -, rfl⟩ := mem_ofKind ha
    have := start_lt_nameStart (mem_declarations.mpr ha)
    omega
  · have hkinds : Kind.all.Pairwise (· ≠ ·) := by decide
    refine hkinds.imp fun {kind kind'} hne a ha b hb heq => ?_
    obtain ⟨_, -, rfl⟩ := mem_ofKind ha
    obtain ⟨_, -, rfl⟩ := mem_ofKind hb
    have hsame := eq_of_start_eq (mem_declarations.mpr ha) (mem_declarations.mpr hb) heq
    exact hne (congrArg Declaration.kind hsame)

/-- **Declarations come in strict order of place.** Every result that compares two declarations of a
document starts from this. -/
theorem declarations_pairwise (source : Source) :
    source.declarations.Pairwise fun a b => a.start < b.start := by
  have hsorted : source.declarations.Pairwise fun a b => decide (a.start ≤ b.start) = true := by
    refine List.pairwise_mergeSort (fun a b c hab hbc => ?_) (fun a b => ?_) _
    · simp only [decide_eq_true_eq] at hab hbc ⊢
      omega
    · simp only [Bool.or_eq_true, decide_eq_true_eq]
      omega
  have hdistinct : source.declarations.Pairwise fun a b => a.start ≠ b.start :=
    (List.mergeSort_perm _ _).symm.pairwise source.flatMap_ofKind_pairwise fun h => h.symm
  refine (hsorted.and hdistinct).imp fun {a b} h => ?_
  exact lt_of_le_of_ne (of_decide_eq_true h.1) h.2

theorem stop_eq_blockEnd {source : Source} {d : Declaration} (hd : d ∈ source.declarations) :
    d.stop = source.blockEnd d.start := by
  obtain ⟨hit, -, heq⟩ := mem_ofKind (mem_declarations.mp hd)
  rw [heq]
  rfl

theorem stop_le_endOffset {source : Source} {d : Declaration} (hd : d ∈ source.declarations) :
    d.stop ≤ source.endOffset := by
  rw [stop_eq_blockEnd hd]
  exact source.blockEnd_le _

theorem name_le_stop {source : Source} {d : Declaration} (hd : d ∈ source.declarations) :
    d.nameStart + d.name.length ≤ d.stop := by
  obtain ⟨before, after, rest, hwritten⟩ := exists_written hd
  have hsplit : source.text.drop d.start = before ++ d.name.toList ++ (after ++ rest) := by
    rw [List.append_assoc, hwritten.split]
  have hle := source.le_blockEnd hsplit hwritten.start_lt.le hwritten.not_mem_header
  rw [List.length_append, String.length_toList, ← stop_eq_blockEnd hd] at hle
  have := hwritten.nameStart_eq
  omega

theorem slice_name {source : Source} {d : Declaration} (hd : d ∈ source.declarations) :
    source.slice d.nameStart (d.nameStart + d.name.length) = d.name.toList := by
  obtain ⟨before, after, rest, hwritten⟩ := exists_written hd
  unfold slice
  rw [hwritten.drop_nameStart, Nat.add_sub_cancel_left]
  exact List.take_left' String.length_toList

/-- **Declarations are in strict order, and each is what it says.** Over the whole list, places and
places of names strictly increase. A declaration starts where no word runs into it and before its
name; the name is a whole word of the document and stands there; the block that the declaration
covers ends behind the name and inside the document. The order is `declarations_pairwise` and
`nameStart_lt_of_start_lt`; the rest is read off `Written`. -/
theorem declarations_strictly_ordered (source : Source) :
    (source.declarations.Pairwise fun a b => a.start < b.start ∧ a.nameStart < b.nameStart) ∧
      ∀ d ∈ source.declarations,
        d.start < d.nameStart ∧
        source.slice d.nameStart (d.nameStart + d.name.length) = d.name.toList ∧
        Run source.text d.nameStart (d.nameStart + d.name.length) ∧
        Boundary source.text d.start ∧
        d.nameStart + d.name.length ≤ d.stop ∧ d.stop ≤ source.endOffset := by
  constructor
  · refine source.declarations_pairwise.imp_of_mem fun {a b} ha hb hlt => ?_
    exact ⟨hlt, nameStart_lt_of_start_lt ha hb hlt⟩
  · intro d hd
    obtain ⟨before, after, rest, hwritten⟩ := exists_written hd
    exact ⟨start_lt_nameStart hd, slice_name hd, hwritten.run_name, hwritten.boundary,
      name_le_stop hd, stop_le_endOffset hd⟩

set_option maxRecDepth 4000 in
/-- Two kinds that overlap: the word behind `class` is the name of a class, and it also starts a
function. -/
theorem declarations_strictly_ordered_overlap :
    (Source.ofString "class def foo()").declarations =
        [⟨.cls, "def", 0, 6, 15⟩, ⟨.function, "foo", 6, 10, 15⟩] ∧
      Run (Source.ofString "class def foo()").text 6 9 := by
  have hlist : (Source.ofString "class def foo()").declarations =
      [⟨.cls, "def", 0, 6, 15⟩, ⟨.function, "foo", 6, 10, 15⟩] := by cbv
  have hmem : ⟨.cls, "def", 0, 6, 15⟩ ∈ (Source.ofString "class def foo()").declarations := by
    rw [hlist]
    exact List.mem_cons_self
  exact ⟨hlist, ((declarations_strictly_ordered _).2 _ hmem).2.2.1⟩

end Source
end SpiceKit

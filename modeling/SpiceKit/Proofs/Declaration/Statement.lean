import SpiceKit.Proofs.Declaration.Scan
import SpiceKit.Proofs.Declaration.Shape
import SpiceKit.Proofs.Source.Braces

/-!
# Declarations and the end of a statement

A semicolon ends a statement, and no header runs over one, except in a parameter list: that goes on
to the next closing parenthesis, wherever it is. So where every parenthesis of the first text is
closed in it, **the declarations of two texts with a semicolon between them are those of the first
and those of the second** (`declarations_append_statement`). Classes and interfaces have no
parameter list and need no such proviso.

That a reader does not mind what stands behind the semicolon is not shown by following the reader.
What it answers depends on nothing but which headers stand at the front (`Kind.header?_congr`), and
those are the same.
-/

set_option autoImplicit false

namespace SpiceKit

open Text Scan Declaration

/-! ## The reader sees headers and nothing else -/

theorem Header.eq_of_fields {a b : Header} (hname : a.name = b.name) (hnameAt : a.nameAt = b.nameAt)
    (hsize : a.size = b.size) : a = b := by
  cases a
  cases b
  simp_all

namespace Kind

/-- **What the reader answers, by the language alone**: the name and the length of the longest
header. The reader does not occur on the right side, so that two texts can be compared by the
headers at their fronts (`header?_congr`). -/
theorem header?_eq_some_iff {kind : Kind} {cs : List Char} {header : Header} :
    kind.header? cs = some header ↔
      ∃ before ∈ kind.opening, ∃ after ∈ kind.closing, header.name ∈ names ∧
        before ++ (header.name ++ after) <+: cs ∧ header.nameAt = before.length ∧
        header.size = (before ++ (header.name ++ after)).length ∧
        ∀ p ∈ kind.language, p <+: cs → p.length ≤ header.size := by
  constructor
  · intro h
    obtain ⟨before, hbefore, after, hafter, rest, hsplit, hname, -, hnameAt, hsize⟩ :=
      header?_sound h
    refine ⟨before, hbefore, after, hafter, hname, ⟨rest, ?_⟩, hnameAt, ?_, ?_⟩
    · rw [← hsplit]
      simp only [List.append_assoc]
    · simp only [List.length_append]
      omega
    · rintro p hp ⟨q, rfl⟩
      obtain ⟨header', hheader', hle⟩ := header?_longest hp q
      rw [h] at hheader'
      obtain rfl := Option.some.inj hheader'
      exact hle
  · rintro ⟨before, hbefore, after, hafter, hname, hpre, hnameAt, hsize, hlongest⟩
    have hmem := mem_language.mpr ⟨before, hbefore, _, hname, after, hafter, rfl⟩
    obtain ⟨q, hq⟩ := hpre
    obtain ⟨header', hheader', hle⟩ := header?_longest hmem q
    rw [hq] at hheader'
    obtain ⟨before', hbefore', after', hafter', rest', hsplit', hname', -, hnameAt', hsize'⟩ :=
      header?_sound hheader'
    -- Both are the longest header, so they are one text, and it is divided in one way.
    have hpre' : before' ++ (header'.name ++ after') <+: cs :=
      ⟨rest', by rw [← hsplit']; simp only [List.append_assoc]⟩
    have hle' := hlongest _ (mem_language.mpr ⟨before', hbefore', _, hname', after', hafter', rfl⟩)
      hpre'
    have hlength : (before ++ (header.name ++ after)).length =
        (before' ++ (header'.name ++ after')).length := by
      simp only [List.length_append] at hle hle' hsize ⊢
      omega
    have hsame : before ++ (header.name ++ after) = before' ++ (header'.name ++ after') :=
      (List.prefix_of_prefix_length_le ⟨q, hq⟩ hpre' hlength.le).eq_of_length hlength
    obtain ⟨rfl, hnames⟩ := opening_unique hbefore hbefore' hname hname'
      (kind.stops_closing _ hafter) (kind.stops_closing _ hafter') hsame
    rw [hheader', Header.eq_of_fields hnames (hnameAt.trans hnameAt'.symm)]
    simp only [List.length_append] at hlength hsize
    omega

/-- Two texts at whose fronts the same headers stand are read alike. The reader sees no more of a
text than the members of `language` at its front. -/
theorem header?_congr {kind : Kind} {cs cs' : List Char}
    (h : ∀ p ∈ kind.language, p <+: cs ↔ p <+: cs') : kind.header? cs = kind.header? cs' := by
  have himp : ∀ {xs ys : List Char}, (∀ p ∈ kind.language, p <+: xs ↔ p <+: ys) →
      ∀ header, kind.header? xs = some header → kind.header? ys = some header := by
    intro xs ys hxy header hread
    obtain ⟨before, hbefore, after, hafter, hname, hpre, hnameAt, hsize, hlongest⟩ :=
      header?_eq_some_iff.mp hread
    have hmem := mem_language.mpr ⟨before, hbefore, _, hname, after, hafter, rfl⟩
    exact header?_eq_some_iff.mpr ⟨before, hbefore, after, hafter, hname, (hxy _ hmem).mp hpre,
      hnameAt, hsize, fun p hp hpre' => hlongest p hp ((hxy p hp).mpr hpre')⟩
  exact Option.ext fun header => ⟨himp h header, himp (fun p hp => (h p hp).symm) header⟩

end Kind

/-! ## A semicolon -/

/-- Every opening parenthesis has a closing one somewhere behind it. It is the condition under which
no header runs over the end of a statement, and it says nothing of how parentheses pair up.
`prefix_append_semicolon_iff` is where it is used. -/
def Text.ParensClosed (cs : List Char) : Prop :=
  ∀ before after, cs = before ++ '(' :: after → ')' ∈ after

theorem Text.ParensClosed.of_suffix {cs text : List Char} (h : ParensClosed text)
    (hsuffix : cs <:+ text) : ParensClosed cs := by
  obtain ⟨front, rfl⟩ := hsuffix
  intro before after hsplit
  exact h (front ++ before) after (by rw [hsplit, List.append_assoc])

theorem Text.parensClosed_concat (cs : List Char) : ParensClosed (cs ++ [')']) := by
  intro before after hsplit
  have hlast := congrArg List.getLast? hsplit
  rw [List.getLast?_concat, List.getLast?_append, List.getLast?_cons] at hlast
  cases hafter : after.getLast? with
  | none => simp [hafter] at hlast
  | some c =>
    obtain rfl : ')' = c := by simpa [hafter] using hlast
    exact List.mem_of_getLast? hafter

namespace Kind

/-- A parameter list that runs over a semicolon has its parenthesis still open there. Other headers
hold no semicolon at all (`isPlain`). -/
theorem ListedAs.not_parensClosed {cs rest lead parameters tail : List Char}
    (h : ListedAs (cs ++ ';' :: rest) lead parameters tail) : ¬ ParensClosed cs := by
  intro hclosed
  have hlead : ';' ∉ lead := fun hmem => absurd (h.lead_plain _ hmem) (by decide)
  have htail : ';' ∉ tail := fun hmem => absurd (h.tail_plain _ hmem) (by decide)
  rcases List.append_eq_append_iff.mp h.split with ⟨more, hsplit, hback⟩ | ⟨list, hsplit, hback⟩
  · -- The semicolon stands before the list.
    cases more with
    | nil => exact absurd (List.cons.inj hback).1 (by decide)
    | cons c more =>
      obtain ⟨rfl, -⟩ := List.cons.inj hback
      exact hlead (by simp [hsplit])
  · cases list with
    | nil => exact absurd (List.cons.inj hback).1 (by decide)
    | cons c list =>
      obtain ⟨rfl, hlist⟩ := List.cons.inj hback
      have hmem : ')' ∈ list := hclosed lead list hsplit
      rcases List.append_eq_append_iff.mp hlist with ⟨more, -, hbehind⟩ | ⟨more, hinside, -⟩
      · -- The list ends before the semicolon, so the semicolon stands behind it.
        cases more with
        | nil => exact absurd (List.cons.inj hbehind).1 (by decide)
        | cons c more =>
          obtain ⟨-, hbehind⟩ := List.cons.inj hbehind
          exact htail (by simp [hbehind])
      · exact h.unclosed (by simp [hinside, hmem])

/-- No header runs over a semicolon, unless in a parameter list that is still open. It holds of the
headers of every kind that stand at any place of the text. -/
theorem prefix_append_semicolon_iff {kind : Kind} {header cs rest : List Char}
    (hheader : header ∈ kind.language) (hclosed : kind = .function → ParensClosed cs) :
    header <+: cs ++ ';' :: rest ↔ header <+: cs := by
  refine ⟨fun hpre => ?_, fun hpre => hpre.trans (List.prefix_append cs _)⟩
  rcases Nat.lt_or_ge cs.length header.length with hlt | hle
  · exfalso
    have hsemicolon : cs ++ [';'] <+: cs ++ ';' :: rest := ⟨rest, by simp⟩
    have hlength : (cs ++ [';']).length ≤ header.length := by
      rw [List.length_append, List.length_singleton]
      exact hlt
    obtain ⟨more, hmore⟩ := List.prefix_of_prefix_length_le hsemicolon hpre hlength
    rw [List.append_assoc, List.singleton_append] at hmore
    rcases shape_of_mem_language hheader with ⟨-, hplain⟩ | ⟨hkind, lead, ps, tail, hlisted⟩
    · exact absurd (hplain ';' (by simp [← hmore])) (by decide)
    · rw [← hmore] at hlisted
      exact hlisted.not_parensClosed (hclosed hkind)
  · exact List.prefix_of_prefix_length_le hpre (List.prefix_append cs _) hle

end Kind

namespace Declaration

theorem readHeader_append_semicolon {kind : Kind} {cs : List Char}
    (hclosed : kind = .function → ParensClosed cs) (before : Option Char) (rest : List Char) :
    readHeader kind before (cs ++ ';' :: rest) = readHeader kind before cs := by
  unfold readHeader
  rw [Kind.header?_congr fun p hp => Kind.prefix_append_semicolon_iff hp hclosed]

theorem readHeader_semicolon (kind : Kind) (before : Option Char) (rest : List Char) :
    readHeader kind before (';' :: rest) = none := by
  unfold readHeader
  rw [kind.header?_eq_none_of_stops (stops_cons.mpr (by decide))]
  split
  · rfl
  · rfl

theorem readHeader_size_le {kind : Kind} {before : Option Char} {cs : List Char} {header : Header}
    {size : Nat} (h : readHeader kind before cs = some (header, size)) : size ≤ cs.length := by
  unfold readHeader at h
  split at h
  · cases h
  · obtain ⟨_, hheader, hpair⟩ := Option.map_eq_some_iff.mp h
    obtain ⟨rfl, rfl⟩ := Prod.mk.inj hpair
    obtain ⟨_, _, _, _, _, hpre, _, hsize, _⟩ := Kind.header?_eq_some_iff.mp hheader
    rw [hsize]
    exact hpre.length_le

/-! ## Two texts with a semicolon between them -/

def shifted (n : Nat) (d : Declaration) : Declaration :=
  { d with start := n + d.start, nameStart := n + d.nameStart, stop := n + d.stop }

def endedIn (source : Source) (d : Declaration) : Declaration :=
  { d with stop := source.blockEnd d.start }

/-- What a declaration is called, what it is, where it starts and where its name does: all but its
end. The end of a declaration is the one thing that text behind it can change.
`declarations_append_statement` compares sites where it says nothing of ends. -/
def site (d : Declaration) : String × Kind × Nat × Nat := (d.name, d.kind, d.start, d.nameStart)

theorem ofKind_append_statement {kind : Kind} {a : List Char}
    (hclosed : kind = .function → ParensClosed a) (b : List Char) :
    ofKind (.ofText (a ++ ';' :: b)) kind =
      (ofKind (.ofText a) kind).map (endedIn (.ofText (a ++ ';' :: b))) ++
        (ofKind (.ofText b) kind).map (shifted (a.length + 1)) := by
  have hscan : hits (readHeader kind) (a ++ ';' :: b) =
      hits (readHeader kind) a ++ (hits (readHeader kind) b).map (Hit.shifted (a.length + 1)) := by
    refine hits_append_seam readHeader_size_le (fun before => readHeader_semicolon kind before b)
      (fun cs => rfl) fun cs hcs _ before => ?_
    exact readHeader_append_semicolon (fun hkind => (hclosed hkind).of_suffix hcs) before b
  -- A block is searched for behind its header only, so in the second text as in both.
  have hbehind : ∀ hit ∈ hits (readHeader kind) b,
      ofHit (.ofText (a ++ ';' :: b)) kind (Hit.shifted (a.length + 1) hit) =
        shifted (a.length + 1) (ofHit (.ofText b) kind hit) := by
    intro hit hmem
    have hlt := ((hits_leftmost (advances_readHeader kind) b).item_of_mem hit hmem).1
    have hblock := Source.blockEnd_append (a ++ [';']) hlt.le
    rw [List.append_assoc, List.singleton_append, List.length_append, List.length_singleton]
      at hblock
    simp only [ofHit, shifted, Hit.shifted, hblock]
    rw [Nat.add_assoc _ hit.start]
  unfold ofKind
  simp only [Source.ofText] at hscan hbehind ⊢
  rw [hscan, List.map_append, List.map_map, List.map_map, List.map_map]
  exact congrArg _ (List.map_congr_left hbehind)

end Declaration

namespace Source

/-- The same declarations are found, in whatever order. Both sides are in strict order of place, so
they are equal as well (`filter_declarations_append_statement`). -/
theorem filter_declarations_append_statement_perm {keep : Kind → Bool} {a : List Char}
    (hclosed : keep .function = true → ParensClosed a) (b : List Char) :
    ((ofText (a ++ ';' :: b)).declarations.filter fun d => keep d.kind).Perm
      (((ofText a).declarations.filter fun d => keep d.kind).map
          (endedIn (.ofText (a ++ ';' :: b))) ++
        ((ofText b).declarations.filter fun d => keep d.kind).map (shifted (a.length + 1))) := by
  have hfront := (filter_declarations_perm (ofText a) keep).map
    (endedIn (.ofText (a ++ ';' :: b)))
  have hback := (filter_declarations_perm (ofText b) keep).map (shifted (a.length + 1))
  refine (filter_declarations_perm _ keep).trans (.trans ?_ (hfront.append hback).symm)
  rw [List.map_flatMap, List.map_flatMap]
  refine (List.Perm.of_eq (List.flatMap_congr fun kind _ => ?_)).trans
    (List.flatMap_append_perm _ _ _).symm
  split
  · rename_i hkeep
    exact ofKind_append_statement (fun hkind => hclosed (hkind ▸ hkeep)) b
  · rfl

/-- The declarations of the kinds for which no header runs over the semicolon. In front of the
others the order is kept, so the `Perm` of the unsorted lists is enough. -/
theorem filter_declarations_append_statement {keep : Kind → Bool} {a : List Char}
    (hclosed : keep .function = true → ParensClosed a) (b : List Char) :
    (ofText (a ++ ';' :: b)).declarations.filter (fun d => keep d.kind) =
      ((ofText a).declarations.filter fun d => keep d.kind).map
          (endedIn (.ofText (a ++ ';' :: b))) ++
        ((ofText b).declarations.filter fun d => keep d.kind).map (shifted (a.length + 1)) := by
  -- Both lists are in strict order of where the declarations start, so they are one list.
  refine (filter_declarations_append_statement_perm hclosed b).eq_of_pairwise (fun d e _ _ hde hed => absurd hde (Nat.lt_asymm hed))
    ((declarations_pairwise _).filter _) (List.pairwise_append.mpr ⟨?_, ?_, ?_⟩)
  · exact List.pairwise_map.mpr ((declarations_pairwise _).filter _)
  · refine List.pairwise_map.mpr (((declarations_pairwise _).filter _).imp fun hlt => ?_)
    exact Nat.add_lt_add_left hlt _
  · intro d hd e he
    obtain ⟨d', hd', rfl⟩ := List.mem_map.mp hd
    obtain ⟨e', -, rfl⟩ := List.mem_map.mp he
    obtain ⟨_, _, _, hwritten⟩ := exists_written (List.mem_of_mem_filter hd')
    have hlt : d'.start < a.length := hwritten.start_lt
    simp only [endedIn, shifted]
    omega

/-- **The declarations of two statements are those of the first and those of the second.** Where
every parenthesis of `a` is closed in `a`, a semicolon and another text behind it change nothing
about the declarations of `a` but their ends; and those of the other text follow, complete with
their ends, further on by the length of what stands before it. For classes and interfaces that
holds whatever the parentheses do. -/
theorem declarations_append_statement (a b : List Char) :
    (ParensClosed a →
      ∃ front, (ofText (a ++ ';' :: b)).declarations =
          front ++ (ofText b).declarations.map (shifted (a.length + 1)) ∧
        front.map site = (ofText a).declarations.map site) ∧
    ∃ front, (ofText (a ++ ';' :: b)).declarations.filter (fun d => d.kind ≠ .function) =
        front ++ ((ofText b).declarations.filter fun d => d.kind ≠ .function).map
          (shifted (a.length + 1)) ∧
      front.map site = ((ofText a).declarations.filter fun d => d.kind ≠ .function).map site := by
  have hsites : ∀ ds : List Declaration,
      (ds.map (endedIn (.ofText (a ++ ';' :: b)))).map site = ds.map site := by
    intro ds
    rw [List.map_map]
    rfl
  constructor
  · intro hclosed
    have hall := @filter_declarations_append_statement (fun _ => true) a (fun _ => hclosed) b
    simp only [List.filter_true] at hall
    exact ⟨_, hall, hsites _⟩
  · have hkinds := @filter_declarations_append_statement (fun kind => kind ≠ .function) a
      (fun hfunction => absurd hfunction (by decide)) b
    exact ⟨_, hkinds, hsites _⟩

set_option maxRecDepth 4000 in
/-- A function and a class, each a statement: the class is found as in a text of its own. -/
theorem declarations_append_statement_class :
    ParensClosed "def f(x)".toList ∧
      ∃ front, (ofText ("def f(x)".toList ++ ';' :: "class B".toList)).declarations =
          front ++ [⟨.cls, "B", 9, 15, 16⟩] ∧
        front.map site = [("f", .function, 0, 4)] := by
  have hclosed : ParensClosed "def f(x)".toList := parensClosed_concat "def f(x".toList
  have hfront : (ofText "def f(x)".toList).declarations.map site = [("f", .function, 0, 4)] := by
    cbv
  have hback : (ofText "class B".toList).declarations.map (shifted ("def f(x)".toList.length + 1)) =
      [⟨.cls, "B", 9, 15, 16⟩] := by
    cbv
  obtain ⟨front, hall, hsites⟩ :=
    (declarations_append_statement "def f(x)".toList "class B".toList).1 hclosed
  exact ⟨hclosed, front, by rw [hall, hback], by rw [hsites, hfront]⟩

end Source
end SpiceKit

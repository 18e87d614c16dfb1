import SpiceKit.Declaration
import SpiceKit.Proofs.Text.Longest

/-!
# The grammar of headers, and that headers are read by it

`Declaration.Header` reads a header by taking pieces off the front, one after another. Here the same
three headers are written down as **languages** (`Kind.language`), and the reader is shown to answer
for exactly the longest prefix of the text that belongs to the language of its kind:

* `header?_sound` — what is read is a header: opening, name, closing, with the name where it says;
* `header?_longest` — where some prefix is a header, one is read, and none is longer;
* `opening_unique` — a header names one thing only, at one place.

All three kinds go through one shape (`header?_eq`): an opening up to the name, the name, a closing
behind it. What is particular to a kind is its modifiers, its keyword and its closing; the closings
are the only place where the pieces of `Text.Longest` are put together by hand.
-/

set_option autoImplicit false

namespace SpiceKit

open Text Header
open scoped Computability

/-! ## The languages -/

namespace Kind

/-- The word that makes a declaration one of this kind: the one that stands behind its modifiers and
before its name. Those of two kinds are never equal, nor is one the start of another. -/
def keyword : Kind → String
  | .cls => "class"
  | .interface => "interface"
  | .function => "def"

/-- The words of which one may stand before the keyword. There are more of them for a function, and
for each kind they are `PrefixFree` together with the keyword. -/
def modifiers : Kind → List String
  | .cls => ["abstract", "final"]
  | .interface => []
  | .function => ["static", "final", "abstract"]

/-- What stands before the declared name: a modifier with a gap, if there is one, the keyword and a
gap. `header?` takes a modifier off first, and `takes_opening` says that it takes all of the
opening. -/
def opening (kind : Kind) : Language Char :=
  optionally (oneOf kind.modifiers * gap) * (literal kind.keyword * gap)

end Kind

namespace Header

def clause (keyword : String) : Language Char := gap * (literal keyword * (gap * names))

def listed : Language Char := blanks * (literal "," * (blanks * names))

def unclosed : Language Char := {cs | ')' ∉ cs}

/-- A parameter list: anything between an opening parenthesis and the next closing one. Braces,
semicolons and line ends may stand in it, which is why a header can run over a statement, and a
block can close inside one. As a language it is `blanks`, a parenthesis and characters that are
`unclosed`, up to the one that closes. -/
def parameters : Language Char := blanks * (literal "(" * (unclosed * literal ")"))

def result : Language Char := blanks * (literal "->" * (blanks * names))

end Header

namespace Kind

/-- What stands behind the declared name: clauses and lists for a class or an interface, a parameter
list and perhaps a result type for a function. Each part may be left out (`optionally`), and
`takes_closing` says that the longest is taken. -/
def closing : Kind → Language Char
  | .cls => optionally (clause "extends") * optionally (clause "implements" * listed∗)
  | .interface => 1
  | .function => parameters * optionally result

/-- The headers of a kind: its `opening`, a name and its `closing`. `header?_longest` says that the
reader takes the longest of them, so everything about declarations is said in terms of this
language. -/
def language (kind : Kind) : Language Char := kind.opening * (names * kind.closing)

/-! ## The one shape of the three readers -/

def opened? (kind : Kind) : Taker := fun cs =>
  (dropText? kind.keyword.toList (afterModifier kind.modifiers cs)).bind dropGap?

def closed? : Kind → Taker
  | .cls => fun cs => some (afterImplements (afterExtends cs))
  | .interface => some
  | .function => fun cs => (afterParameters? cs).map afterResult

theorem header?_eq (kind : Kind) (cs : List Char) :
    kind.header? cs = do
      let atName ← kind.opened? cs
      let (n, rest) ← takeName? atName
      let behind ← kind.closed? rest
      return { name := n, nameAt := cs.length - atName.length,
               size := cs.length - behind.length } := by
  cases kind with
  | cls =>
    simp [header?, class?, named?, opened?, closed?, keyword, modifiers, Option.bind_assoc]
  | interface =>
    simp [header?, interface?, named?, opened?, closed?, keyword, modifiers, Option.bind_assoc,
      afterModifier, dropModifier?, Option.map_bind]
  | function =>
    simp [header?, function?, named?, opened?, closed?, keyword, modifiers, Option.bind_assoc,
      Option.bind_map]

/-! ## Openings

The modifiers come first and may be missing. That costs nothing: no modifier of any kind begins like
the keyword of any kind, so at a bare keyword there is none to be read. -/

theorem prefixFree_modifiers (kind : Kind) : PrefixFree (kind.modifiers.map String.toList) := by
  cases kind <;> decide

theorem not_comparable_keyword (other kind : Kind) :
    ∀ k ∈ other.modifiers.map String.toList,
      ¬ k <+: kind.keyword.toList ∧ ¬ kind.keyword.toList <+: k := by
  cases other <;> cases kind <;> decide

theorem stops_keyword (kind : Kind) : Stops isBlank kind.keyword.toList := by
  cases kind <;> decide

theorem keyword_ne_nil (kind : Kind) : kind.keyword.toList ≠ [] := by
  cases kind <;> decide

theorem keyword_mem_names (kind : Kind) : kind.keyword.toList ∈ names := by
  refine mem_names_of_all ?_
  cases kind <;> decide

theorem modifier_mem_names (kind : Kind) :
    ∀ k ∈ oneOf kind.modifiers, k ∈ names := by
  have hall : ∀ k ∈ kind.modifiers.map String.toList, k ≠ [] ∧ k.all isWordChar = true := by
    cases kind <;> decide
  exact fun k hk => mem_names_of_all (hall k hk)

theorem leaves_modifiers (other kind : Kind) (m : Language Char) :
    Leaves (fun cs => some (afterModifier other.modifiers cs))
      (optionally (oneOf other.modifiers * gap)) (literal kind.keyword * m) := by
  refine Leaves.optional (leaves_modifier other.prefixFree_modifiers ?_)
    (refuses_modifier other.prefixFree_modifiers (not_comparable_keyword other kind))
  exact stops_mul (stops_literal kind.stops_keyword) fun h => kind.keyword_ne_nil h.symm

theorem takes_opening (kind : Kind) : Takes kind.opening kind.opened? :=
  (takes_modifier kind.prefixFree_modifiers).optional.andThen
    ((takes_literal kind.keyword).andThen takes_gap (leaves_literal kind.keyword))
    (leaves_modifiers kind kind gap)

theorem leaves_opening (kind : Kind) (m : Language Char) :
    Leaves kind.opened? kind.opening (names * m) := by
  have hname : ∀ s ∈ names * m, Stops isBlank s :=
    stops_mul (fun _ hn => stops_isBlank_of_mem_names hn) fun h => h.1 rfl
  have hkeyword := (leaves_literal kind.keyword).andThen (leaves_gap hname)
  have hmodifiers := leaves_modifiers kind kind (gap * (names * m))
  rw [← mul_assoc] at hmodifiers
  exact hmodifiers.andThen hkeyword

end Kind

/-! ## Clauses of a class header -/

namespace Header

section

variable {m : Language Char} (keyword : String)

theorem afterClause?_eq (cs : List Char) :
    afterClause? keyword.toList cs = (dropGap? cs).bind fun atKeyword =>
      (dropText? keyword.toList atKeyword).bind fun behind =>
        (dropGap? behind).bind fun atName => (takeName? atName).map (·.2) := by
  simp only [afterClause?, Option.bind_eq_bind, Option.pure_def]
  simp only [Option.map_eq_bind, Function.comp_def]

theorem stops_clause : ∀ s ∈ clause keyword * m, Stops isWordChar s := by
  unfold clause
  rw [mul_assoc]
  exact stops_mul (fun _ hg => stops_isWordChar_of_mem_gap hg) fun h => h.1 rfl

theorem takes_clause (hblank : Stops isBlank keyword.toList) (hne : keyword.toList ≠ []) :
    Takes (clause keyword) (afterClause? keyword.toList) := by
  rw [funext (afterClause?_eq keyword)]
  have hname := takes_gap.andThen takes_names
    (leaves_gap fun _ hn => stops_isBlank_of_mem_names hn)
  have hkeyword := (takes_literal keyword).andThen hname (leaves_literal keyword)
  exact takes_gap.andThen hkeyword
    (leaves_gap (stops_mul (stops_literal hblank) fun h => hne h.symm))

theorem leaves_clause (hblank : Stops isBlank keyword.toList) (hne : keyword.toList ≠ [])
    (hm : ∀ s ∈ m, Stops isWordChar s) :
    Leaves (afterClause? keyword.toList) (clause keyword) m := by
  rw [funext (afterClause?_eq keyword)]
  have hname : Leaves _ (gap * names) m :=
    (leaves_gap (stops_mul (fun _ hn => stops_isBlank_of_mem_names hn) fun h => h.1 rfl)).andThen
      (leaves_names hm)
  have hkeyword := (leaves_literal keyword).andThen hname
  have hstart : ∀ s ∈ literal keyword * (gap * names) * m, Stops isBlank s := by
    rw [mul_assoc]
    exact stops_mul (stops_literal hblank) fun h => hne h.symm
  exact (leaves_gap hstart).andThen hkeyword

theorem refuses_clause {other : String} (hblank : Stops isBlank other.toList)
    (hne : other.toList ≠ [])
    (h : ¬ keyword.toList <+: other.toList ∧ ¬ other.toList <+: keyword.toList) :
    Refuses (afterClause? keyword.toList) (clause other * m) := by
  intro s hs _ q
  rw [afterClause?_eq]
  unfold clause at hs
  rw [mul_assoc, mul_assoc] at hs
  obtain ⟨g, hg, b, hb, rfl⟩ := Language.mem_mul.mp hs
  obtain ⟨_, rfl, b, -, rfl⟩ := Language.mem_mul.mp hb
  have hgap : dropGap? (g ++ (other.toList ++ b) ++ q) = some (other.toList ++ b ++ q) :=
    dropGap?_eq_some_iff.mpr ⟨g, hg, by simp, by simpa using (hblank.append hne (b ++ q))⟩
  rw [hgap, Option.bind_some]
  cases htext : dropText? keyword.toList (other.toList ++ b ++ q) with
  | none => rfl
  | some rest =>
    -- Two words at one front would be prefixes one of the other.
    have hpre : keyword.toList <+: other.toList ++ b ++ q :=
      ⟨rest, dropText?_eq_some_iff.mp htext⟩
    have hpre' : other.toList <+: other.toList ++ b ++ q := by simp
    rcases List.prefix_or_prefix_of_prefix hpre hpre' with hle | hle
    · exact absurd hle h.1
    · exact absurd hle h.2

/-! ## Lists of names -/

theorem afterListed?_eq (cs : List Char) :
    afterListed? cs = (dropText? ",".toList (dropGap cs)).bind fun rest =>
      (takeName? (dropGap rest)).map (·.2) := by
  unfold afterListed?
  split
  · rename_i rest hcs
    have hcomma : dropText? ",".toList (dropGap cs) = some rest :=
      dropText?_eq_some_iff.mpr hcs.symm
    rw [hcomma, Option.bind_some]
  · rename_i hcs
    cases hcomma : dropText? ",".toList (dropGap cs) with
    | none => rfl
    | some rest => exact absurd (dropText?_eq_some_iff.mp hcomma).symm (hcs rest)

theorem stops_listed : ∀ s ∈ listed, Stops isWordChar s :=
  stops_mul_of_nil (fun _ hg => stops_isWordChar_of_mem_blanks hg)
    (stops_mul (stops_literal (by decide)) fun h => by cases h)

theorem stops_list : ∀ s ∈ listed∗, Stops isWordChar s := stops_kstar stops_listed

theorem takes_listed : Takes listed afterListed? := by
  rw [funext afterListed?_eq]
  have hname := takes_blanks.andThen takes_names
    (leaves_blanks fun _ hn => stops_isBlank_of_mem_names hn)
  have hcomma := (takes_literal ",").andThen hname (leaves_literal ",")
  exact takes_blanks.andThen hcomma
    (leaves_blanks (stops_mul (stops_literal (by decide)) fun h => by cases h))

theorem leaves_listed (hm : ∀ s ∈ m, Stops isWordChar s) : Leaves afterListed? listed m := by
  rw [funext afterListed?_eq]
  have hname : Leaves _ (blanks * names) m :=
    (leaves_blanks
      (stops_mul (fun _ hn => stops_isBlank_of_mem_names hn) fun h => h.1 rfl)).andThen
      (leaves_names hm)
  have hcomma := (leaves_literal ",").andThen hname
  have hstart : ∀ s ∈ literal "," * (blanks * names) * m, Stops isBlank s := by
    rw [mul_assoc]
    exact stops_mul (stops_literal (by decide)) fun h => by cases h
  exact (leaves_blanks hstart).andThen hcomma

theorem afterList_of_some {cs rest : List Char} (h : afterListed? cs = some rest) :
    afterList cs = afterList rest := by
  rw [afterList]
  split
  · rename_i hnone
    rw [h] at hnone
    cases hnone
  · rename_i rest' hsome
    rw [h] at hsome
    rw [Option.some.inj hsome]

theorem afterList_of_none {cs : List Char} (h : afterListed? cs = none) : afterList cs = cs := by
  rw [afterList]
  split
  · rfl
  · rename_i hsome
    rw [h] at hsome
    cases hsome

theorem afterList_sound (cs : List Char) : ∃ p ∈ listed∗, p ++ afterList cs = cs := by
  fun_induction afterList cs with
  | case1 cs hread => exact ⟨[], Language.nil_mem_kstar _, rfl⟩
  | case2 cs rest hread hlt ih =>
    obtain ⟨item, hitem, rfl⟩ := takes_listed.sound hread
    obtain ⟨p, hp, hsplit⟩ := ih
    refine ⟨item ++ p, ?_, by rw [List.append_assoc, hsplit]⟩
    rw [← Language.one_add_self_mul_kstar_eq_kstar]
    exact Or.inr (Language.append_mem_mul hitem hp)

/-- The list is read to its end: another item is never mistaken for more of the one before it.
`Takes` is the statement that a reader takes the longest member of a language. -/
theorem takes_list : Takes (listed∗) fun cs => some (afterList cs) where
  sound := by
    intro cs rest h
    obtain rfl := Option.some.inj h
    exact afterList_sound cs
  longest := by
    intro p hp q
    refine ⟨_, rfl, ?_⟩
    obtain ⟨items, rfl, hitems⟩ := Language.mem_kstar.mp hp
    induction items with
    | nil =>
      obtain ⟨p', -, hsplit⟩ := afterList_sound q
      exact ⟨p', hsplit⟩
    -- An item with others behind it stops in front of them; the last one takes what it can.
    | cons item items ih =>
      have hrest : ∀ y ∈ items, y ∈ listed := fun y hy => hitems y (by simp [hy])
      have hlist : items.flatten ∈ listed∗ := Language.join_mem_kstar hrest
      have hitem := hitems item (by simp)
      rw [List.flatten_cons, List.append_assoc]
      by_cases hne : items.flatten = []
      · obtain ⟨rest, hread, hsuffix⟩ := takes_listed.longest hitem q
        obtain ⟨p', -, hsplit⟩ := afterList_sound rest
        rw [hne, List.nil_append, afterList_of_some hread]
        exact List.IsSuffix.trans ⟨p', hsplit⟩ hsuffix
      · have hread := leaves_listed stops_list item hitem items.flatten hlist hne q
        rw [afterList_of_some hread]
        exact ih hrest hlist

end

/-! ## Parameters and result -/

theorem afterParameters?_eq (cs : List Char) :
    afterParameters? cs = (dropText? "(".toList (dropGap cs)).bind fun inside =>
      dropText? ")".toList (inside.dropWhile (· ≠ ')')) := by
  unfold afterParameters?
  split
  · rename_i inside hcs
    have hopen : dropText? "(".toList (dropGap cs) = some inside :=
      dropText?_eq_some_iff.mpr hcs.symm
    rw [hopen, Option.bind_some]
    have hstops := stops_dropWhile (· ≠ ')') inside
    split
    · rename_i hnone
      rw [hnone]
      rfl
    · rename_i c behind hinside
      rw [hinside, stops_cons] at hstops
      obtain rfl : c = ')' := by simpa using hstops
      rw [hinside]
      exact (dropText?_eq_some_iff.mpr rfl).symm
  · rename_i hcs
    cases hopen : dropText? "(".toList (dropGap cs) with
    | none => rfl
    | some rest => exact absurd (dropText?_eq_some_iff.mp hopen).symm (hcs rest)

theorem mem_parameters {p : List Char} :
    p ∈ parameters ↔ ∃ g ∈ blanks, ∃ ps, ')' ∉ ps ∧ p = g ++ '(' :: (ps ++ [')']) := by
  constructor
  · intro hp
    obtain ⟨g, hg, b, hb, rfl⟩ := Language.mem_mul.mp hp
    obtain ⟨_, rfl, b, hb', rfl⟩ := Language.mem_mul.mp hb
    obtain ⟨ps, hps, _, rfl, rfl⟩ := Language.mem_mul.mp hb'
    exact ⟨g, hg, ps, hps, rfl⟩
  · rintro ⟨g, hg, ps, hps, rfl⟩
    exact Language.append_mem_mul hg (Language.append_mem_mul (a := "(".toList) rfl
      (Language.append_mem_mul (b := ")".toList) hps rfl))

theorem ne_close_of_not_mem {ps : List Char} (h : ')' ∉ ps) :
    ∀ c ∈ ps, decide (c ≠ ')') = true := by
  intro c hc
  simp only [ne_eq, decide_not, Bool.not_eq_eq_eq_not, Bool.not_true, decide_eq_false_iff_not]
  rintro rfl
  exact h hc

/-- A parameter list ends at the first closing parenthesis, whatever stands in it. So there is one
parameter list at a place at most, and no question of a longest one. -/
theorem afterParameters?_eq_some_iff {cs rest : List Char} :
    afterParameters? cs = some rest ↔ ∃ p ∈ parameters, p ++ rest = cs := by
  rw [afterParameters?_eq, Option.bind_eq_some_iff]
  constructor
  · rintro ⟨inside, hopen, hclose⟩
    obtain ⟨g, hg, hsplit, -⟩ := dropGap_eq_iff.mp (dropText?_eq_some_iff.mp hopen).symm
    have hps : ')' ∉ inside.takeWhile (· ≠ ')') := by
      intro hmem
      simpa using List.mem_takeWhile_imp hmem
    have hwhole := List.takeWhile_append_dropWhile (p := (· ≠ ')')) (l := inside)
    rw [← dropText?_eq_some_iff.mp hclose] at hwhole
    refine ⟨_, mem_parameters.mpr ⟨g, hg, _, hps, rfl⟩, ?_⟩
    rw [← hsplit, List.append_assoc, List.cons_append, List.append_assoc]
    exact congrArg (fun inner => g ++ '(' :: inner) hwhole
  · rintro ⟨p, hp, rfl⟩
    obtain ⟨g, hg, ps, hps, rfl⟩ := mem_parameters.mp hp
    have hgap : dropGap (g ++ '(' :: (ps ++ [')']) ++ rest) = '(' :: (ps ++ ')' :: rest) :=
      dropGap_eq_iff.mpr ⟨g, hg, by simp, stops_cons.mpr (by decide)⟩
    have hdrop : (ps ++ ')' :: rest).dropWhile (· ≠ ')') = ')' :: rest :=
      (span_eq (ne_close_of_not_mem hps) (stops_cons.mpr (by decide))).2
    refine ⟨ps ++ ')' :: rest, dropText?_eq_some_iff.mpr hgap.symm, ?_⟩
    rw [hdrop]
    exact dropText?_eq_some_iff.mpr rfl

theorem takes_parameters : Takes parameters afterParameters? where
  sound := fun h => afterParameters?_eq_some_iff.mp h
  longest := fun hp q =>
    ⟨q, afterParameters?_eq_some_iff.mpr ⟨_, hp, rfl⟩, List.suffix_refl q⟩

theorem leaves_parameters (m : Language Char) : Leaves afterParameters? parameters m := by
  intro p hp s _ _ q
  exact afterParameters?_eq_some_iff.mpr ⟨p, hp, rfl⟩

theorem takes_result : Takes (optionally result) fun cs => some (afterResult cs) := by
  have hname := takes_blanks.andThen takes_names
    (leaves_blanks fun _ hn => stops_isBlank_of_mem_names hn)
  have harrow := (takes_literal "->").andThen hname (leaves_literal "->")
  have hresult := (takes_blanks.andThen harrow
    (leaves_blanks (stops_mul (stops_literal (by decide)) fun h => by cases h))).optional
  unfold afterResult result
  simpa only [Option.map_bind, Function.comp_def, Option.bind_some] using hresult

end Header

/-! ## Headers as a whole -/

namespace Kind

theorem closed?_cls : closed? .cls = fun cs => (some (afterExtends cs)).bind fun rest =>
    some (((afterClause? "implements".toList rest).bind fun list =>
      some (afterList list)).getD rest) := by
  funext cs
  simp only [closed?, afterImplements, Option.map_eq_bind, Function.comp_def, Option.bind_some]

theorem closed?_function : closed? .function = fun cs =>
    (afterParameters? cs).bind fun rest => some (afterResult rest) := by
  funext cs
  simp only [closed?, Option.map_eq_bind, Function.comp_def]

theorem takes_closing (kind : Kind) : Takes kind.closing kind.closed? := by
  cases kind with
  | cls =>
    have hextends := (takes_clause "extends" (by decide) (by decide)).optional
    have himplements := ((takes_clause "implements" (by decide) (by decide)).andThen
      takes_list (leaves_clause _ (by decide) (by decide) stops_list)).optional
    have hleaves : Leaves (fun cs => some (afterExtends cs)) (optionally (clause "extends"))
        (optionally (clause "implements" * listed∗)) :=
      (leaves_clause _ (by decide) (by decide) (stops_optionally (stops_clause _))).optional
        (refuses_clause _ (by decide) (by decide) (by decide)).optional
    rw [closed?_cls]
    exact hextends.andThen himplements hleaves
  | interface =>
    refine ⟨fun h => ?_, fun hp q => ?_⟩
    · exact ⟨[], Language.nil_mem_one, (Option.some.inj h).symm⟩
    · rw [(Language.mem_one _).mp hp]
      exact ⟨q, rfl, List.suffix_refl q⟩
  | function =>
    rw [closed?_function]
    exact takes_parameters.andThen takes_result (leaves_parameters _)

/-- No closing starts with a word character, so a name is followed by none. The declared name is
therefore the whole run that stands behind the opening. `Stops` is how that is said. -/
theorem stops_closing (kind : Kind) : ∀ s ∈ kind.closing, Stops isWordChar s := by
  cases kind with
  | cls =>
    refine stops_mul_of_nil (stops_optionally ?_) (stops_optionally (stops_clause _))
    exact stops_mul (fun _ hg => stops_isWordChar_of_mem_gap hg) fun h => h.1 rfl
  | interface =>
    intro s hs
    rw [(Language.mem_one s).mp hs]
    exact stops_nil _
  | function =>
    show ∀ s ∈ parameters * optionally result, Stops isWordChar s
    unfold parameters
    rw [mul_assoc, mul_assoc]
    exact stops_mul_of_nil (fun _ hg => stops_isWordChar_of_mem_blanks hg)
      (stops_mul (stops_literal (by decide)) fun h => by cases h)

/-- **What is read is a header.** The text is an opening, the name, a closing and a rest; the name
stands where the answer says, the header is as long as it says, and the name does not go on. That
nothing longer stands there is `header?_longest`. -/
theorem header?_sound {kind : Kind} {cs : List Char} {header : Header}
    (h : kind.header? cs = some header) :
    ∃ before ∈ kind.opening, ∃ after ∈ kind.closing, ∃ rest,
      before ++ (header.name ++ (after ++ rest)) = cs ∧ header.name ∈ names ∧
        Stops isWordChar (after ++ rest) ∧ header.nameAt = before.length ∧
        header.size = before.length + header.name.length + after.length := by
  rw [header?_eq] at h
  obtain ⟨atName, hopened, h⟩ := Option.bind_eq_some_iff.mp h
  obtain ⟨⟨n, rest⟩, hname, h⟩ := Option.bind_eq_some_iff.mp h
  obtain ⟨behind, hclosed, h⟩ := Option.bind_eq_some_iff.mp h
  obtain rfl := Option.some.inj h
  obtain ⟨before, hbefore, rfl⟩ := kind.takes_opening.sound hopened
  obtain ⟨hn, rfl, hstops⟩ := takeName?_eq_some_iff.mp hname
  obtain ⟨after, hafter, rfl⟩ := kind.takes_closing.sound hclosed
  refine ⟨before, hbefore, after, hafter, behind, rfl, hn, hstops, ?_, ?_⟩
  · simp only [List.length_append]
    omega
  · simp only [List.length_append]
    omega

/-- **The longest header is read**, wherever there is one. It is put together from what each step
takes (`takes_opening`, `takes_closing`) and leaves alone (`leaves_opening`). -/
theorem header?_longest {kind : Kind} {p : List Char} (hp : p ∈ kind.language) (q : List Char) :
    ∃ header, kind.header? (p ++ q) = some header ∧ p.length ≤ header.size := by
  have htakes := kind.takes_opening.andThen
    (takes_names.andThen kind.takes_closing (leaves_names kind.stops_closing))
    (kind.leaves_opening kind.closing)
  obtain ⟨behind, hread, hsuffix⟩ := htakes.longest hp q
  obtain ⟨atName, hopened, hread⟩ := Option.bind_eq_some_iff.mp hread
  obtain ⟨_, hbehind, hclosed⟩ := Option.bind_eq_some_iff.mp hread
  obtain ⟨⟨n, rest⟩, hname, rfl⟩ := Option.map_eq_some_iff.mp hbehind
  have hlength := hsuffix.length_le
  refine ⟨⟨n, (p ++ q).length - atName.length, (p ++ q).length - behind.length⟩, ?_, ?_⟩
  · rw [header?_eq]
    exact Option.bind_eq_some_iff.mpr ⟨atName, hopened, Option.bind_eq_some_iff.mpr
      ⟨(n, rest), hname, Option.bind_eq_some_iff.mpr ⟨behind, hclosed, rfl⟩⟩⟩
  · simp only [List.length_append]
    omega

/-- **A header declares one name, at one place**: however it is divided, the opening ends where the
name begins, and the name ends before the first character that is not part of a word.
`header?_eq_some_iff` can therefore speak of the header at a place. -/
theorem opening_unique {kind : Kind} {before before' n n' rest rest' : List Char}
    (hbefore : before ∈ kind.opening) (hbefore' : before' ∈ kind.opening) (hn : n ∈ names)
    (hn' : n' ∈ names) (hrest : Stops isWordChar rest) (hrest' : Stops isWordChar rest')
    (h : before ++ (n ++ rest) = before' ++ (n' ++ rest')) : before = before' ∧ n = n' := by
  have hopened := kind.leaves_opening 1 before hbefore n (by simpa using hn) hn.1 rest
  have hopened' := kind.leaves_opening 1 before' hbefore' n' (by simpa using hn') hn'.1 rest'
  rw [h, hopened'] at hopened
  have hsame := Option.some.inj hopened
  have hread : takeName? (n ++ rest) = some (n, rest) := takeName?_eq_some_iff.mpr ⟨hn, rfl, hrest⟩
  have hread' : takeName? (n' ++ rest') = some (n', rest') :=
    takeName?_eq_some_iff.mpr ⟨hn', rfl, hrest'⟩
  rw [hsame, hread] at hread'
  obtain ⟨rfl, rfl⟩ := Prod.mk.inj (Option.some.inj hread')
  exact ⟨List.append_cancel_right h, rfl⟩

end Kind
end SpiceKit

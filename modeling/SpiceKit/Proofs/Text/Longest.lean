import SpiceKit.Proofs.Text.Piece

/-!
# Reading the longest piece without giving anything back

A reader that never backs up still finds the longest text of a language, provided the language is
built so that **what comes next is never mistaken for more of the same**. This file is that proviso,
as an algebra:

* `Takes l read` — the reader answers what is left behind the longest text of `l` at the front, and
  fails only where no text of `l` stands;
* `Leaves read l m` — behind a text of `l`, a text of `m` is left alone;
* `Refuses read m` — at a text of `m` the reader finds nothing.

`Takes` alone does not survive sequencing: the longest first piece may be too long for the second
one to be found. `Leaves` is exactly what closes that gap, and it composes in turn
(`Leaves.andThen`), so that a whole header is proved from the right end by one lemma per piece.

The empty text is always set aside (`s ≠ []`): an optional part that is absent puts no demand on
what stands before it.
-/

set_option autoImplicit false

namespace SpiceKit
namespace Text

/-- Takes a piece off the front of a text and answers what is left, if it can. The readers of
headers are made of such steps, and `Takes`, `Leaves` and `Refuses` say what each step does. -/
abbrev Taker : Type := List Char → Option (List Char)

/-- The reader takes the longest text of a language: it takes some text of it wherever one stands at
the front, and no other text of the language that stands there is longer. It is closed under
sequence (`Takes.andThen`) and option (`Takes.optional`). -/
structure Takes (l : Language Char) (read : Taker) : Prop where
  sound : ∀ {cs rest : List Char}, read cs = some rest → ∃ p ∈ l, p ++ rest = cs
  longest : ∀ {p : List Char}, p ∈ l → ∀ q, ∃ rest, read (p ++ q) = some rest ∧ rest <:+ q

/-- Behind a text of `l` the reader leaves a text of `m` alone, so that what stands behind the two
is found again in the end. Together with `Takes` it gives the longest text of a sequence. -/
def Leaves (read : Taker) (l m : Language Char) : Prop :=
  ∀ p ∈ l, ∀ s ∈ m, s ≠ [] → ∀ q, read (p ++ (s ++ q)) = some (s ++ q)

/-- The reader finds nothing where a text of `m` stands. An optional piece then takes nothing away
from what follows it, which is what `Leaves.optional` asks for. -/
def Refuses (read : Taker) (m : Language Char) : Prop :=
  ∀ s ∈ m, s ≠ [] → ∀ q, read (s ++ q) = none

def optionally (l : Language Char) : Language Char := 1 + l

theorem mem_optionally {l : Language Char} {p : List Char} : p ∈ optionally l ↔ p = [] ∨ p ∈ l := by
  unfold optionally
  rw [Language.mem_add, Language.mem_one]

section

variable {l m n : Language Char} {read next : Taker}

/-! ## Sequencing -/

theorem Takes.andThen (hr : Takes l read) (hn : Takes m next) (h : Leaves read l m) :
    Takes (l * m) fun cs => (read cs).bind next where
  sound := by
    intro cs rest hread
    obtain ⟨middle, hmiddle, hrest⟩ := Option.bind_eq_some_iff.mp hread
    obtain ⟨p, hp, rfl⟩ := hr.sound hmiddle
    obtain ⟨s, hs, rfl⟩ := hn.sound hrest
    exact ⟨p ++ s, Language.append_mem_mul hp hs, List.append_assoc _ _ _⟩
  longest := by
    intro ps hps q
    obtain ⟨p, hp, s, hs, rfl⟩ := Language.mem_mul.mp hps
    rw [List.append_assoc]
    by_cases hne : s = []
    · -- Nothing is asked of the second piece, so the first one may run on into `q`.
      subst hne
      obtain ⟨middle, hmiddle, hsuffix⟩ := hr.longest hp q
      obtain ⟨rest, hrest, hsuffix'⟩ := hn.longest hs middle
      exact ⟨rest, Option.bind_eq_some_iff.mpr ⟨middle, hmiddle, hrest⟩, hsuffix'.trans hsuffix⟩
    · obtain ⟨rest, hrest, hsuffix⟩ := hn.longest hs q
      exact ⟨rest, Option.bind_eq_some_iff.mpr ⟨s ++ q, h p hp s hs hne q, hrest⟩, hsuffix⟩

theorem Leaves.andThen (hr : Leaves read l (m * n)) (hn : Leaves next m n) :
    Leaves (fun cs => (read cs).bind next) (l * m) n := by
  intro ps hps s hs hne q
  obtain ⟨p, hp, b, hb, rfl⟩ := Language.mem_mul.mp hps
  have hfirst := hr p hp (b ++ s) (Language.append_mem_mul hb hs) (by simp [hne]) q
  rw [List.append_assoc] at hfirst ⊢
  exact Option.bind_eq_some_iff.mpr ⟨b ++ (s ++ q), hfirst, hn b hb s hs hne q⟩

/-! ## Optional parts -/

theorem Takes.optional (hr : Takes l read) :
    Takes (optionally l) fun cs => some ((read cs).getD cs) where
  sound := by
    intro cs rest h
    cases hread : read cs with
    | none =>
      rw [hread, Option.getD_none, Option.some.injEq] at h
      exact ⟨[], mem_optionally.mpr (Or.inl rfl), h.symm⟩
    | some rest' =>
      rw [hread, Option.getD_some, Option.some.injEq] at h
      obtain ⟨p, hp, hsplit⟩ := hr.sound hread
      exact ⟨p, mem_optionally.mpr (Or.inr hp), h ▸ hsplit⟩
  longest := by
    intro p hp q
    rcases mem_optionally.mp hp with rfl | hp
    · refine ⟨_, rfl, ?_⟩
      cases hread : read q with
      | none => simp [hread]
      | some rest =>
        obtain ⟨p', -, hsplit⟩ := hr.sound hread
        simpa [hread] using ⟨p', hsplit⟩
    · obtain ⟨rest, hread, hsuffix⟩ := hr.longest hp q
      exact ⟨rest, by rw [hread, Option.getD_some], hsuffix⟩

theorem Refuses.optional (h : Refuses read m) : Refuses read (optionally m) := by
  intro s hs hne q
  rcases mem_optionally.mp hs with rfl | hs
  · exact absurd rfl hne
  · exact h s hs hne q

theorem Leaves.optional (hr : Leaves read l m) (h : Refuses read m) :
    Leaves (fun cs => some ((read cs).getD cs)) (optionally l) m := by
  intro p hp s hs hne q
  refine congrArg some ?_
  rcases mem_optionally.mp hp with rfl | hp
  · rw [List.nil_append, h s hs hne q, Option.getD_none]
  · rw [hr p hp s hs hne q, Option.getD_some]

end

/-! ## The pieces

Each piece leaves alone whatever does not start with one of its own characters. -/

section

variable {m : Language Char}

theorem takes_literal (text : String) : Takes (literal text) (dropText? text.toList) where
  sound := fun h => ⟨text.toList, rfl, dropText?_eq_some_iff.mp h⟩
  longest := by
    rintro p rfl q
    exact ⟨q, dropText?_eq_some_iff.mpr rfl, List.suffix_refl q⟩

theorem leaves_literal (text : String) : Leaves (dropText? text.toList) (literal text) m := by
  rintro p rfl s - - q
  exact dropText?_eq_some_iff.mpr rfl

/-- A run of one class of characters, followed by anything: the run that is taken goes on as far as
the class does. `takes_gap`, `takes_blanks` and `takes_names` are its cases. -/
theorem exists_run_append (p : Char → Bool) (q : List Char) :
    ∃ more rest, more ++ rest = q ∧ (∀ c ∈ more, p c = true) ∧ Stops p rest :=
  ⟨q.takeWhile p, q.dropWhile p, List.takeWhile_append_dropWhile,
    fun _ hc => List.mem_takeWhile_imp hc, stops_dropWhile p q⟩

theorem takes_gap : Takes gap dropGap? where
  sound := by
    intro cs rest h
    obtain ⟨g, hg, hsplit, -⟩ := dropGap?_eq_some_iff.mp h
    exact ⟨g, hg, hsplit⟩
  longest := by
    intro g hg q
    obtain ⟨more, rest, rfl, hmore, hrest⟩ := exists_run_append isBlank q
    refine ⟨rest, dropGap?_eq_some_iff.mpr ⟨g ++ more, ⟨by simp [hg.1], ?_⟩, by simp, hrest⟩,
      List.suffix_append more rest⟩
    intro c hc
    rcases List.mem_append.mp hc with hc | hc
    · exact hg.2 c hc
    · exact hmore c hc

theorem leaves_gap (h : ∀ s ∈ m, Stops isBlank s) : Leaves dropGap? gap m := by
  intro g hg s hs hne q
  exact dropGap?_eq_some_iff.mpr ⟨g, hg, rfl, (h s hs).append hne q⟩

theorem takes_blanks : Takes blanks fun cs => some (dropGap cs) where
  sound := by
    intro cs rest h
    obtain ⟨g, hg, hsplit, -⟩ := dropGap_eq_iff.mp (Option.some.inj h)
    exact ⟨g, hg, hsplit⟩
  longest := by
    intro g hg q
    obtain ⟨more, rest, rfl, hmore, hrest⟩ := exists_run_append isBlank q
    refine ⟨rest, congrArg some (dropGap_eq_iff.mpr ⟨g ++ more, ?_, by simp, hrest⟩),
      List.suffix_append more rest⟩
    intro c hc
    rcases List.mem_append.mp hc with hc | hc
    · exact hg c hc
    · exact hmore c hc

theorem leaves_blanks (h : ∀ s ∈ m, Stops isBlank s) :
    Leaves (fun cs => some (dropGap cs)) blanks m := by
  intro g hg s hs hne q
  exact congrArg some (dropGap_eq_iff.mpr ⟨g, hg, rfl, (h s hs).append hne q⟩)

theorem takes_names : Takes names fun cs => (takeName? cs).map (·.2) where
  sound := by
    intro cs rest h
    obtain ⟨⟨n, rest'⟩, hread, rfl⟩ := Option.map_eq_some_iff.mp h
    obtain ⟨hn, hsplit, -⟩ := takeName?_eq_some_iff.mp hread
    exact ⟨n, hn, hsplit⟩
  longest := by
    intro n hn q
    obtain ⟨more, rest, rfl, hmore, hrest⟩ := exists_run_append isWordChar q
    have hlong : n ++ more ∈ names := by
      refine ⟨by simp [hn.1], fun c hc => ?_⟩
      rcases List.mem_append.mp hc with hc | hc
      · exact hn.2 c hc
      · exact hmore c hc
    refine ⟨rest, Option.map_eq_some_iff.mpr ⟨(n ++ more, rest), ?_, rfl⟩,
      List.suffix_append more rest⟩
    exact takeName?_eq_some_iff.mpr ⟨hlong, by simp, hrest⟩

theorem leaves_names (h : ∀ s ∈ m, Stops isWordChar s) :
    Leaves (fun cs => (takeName? cs).map (·.2)) names m := by
  intro n hn s hs hne q
  have hread : takeName? (n ++ (s ++ q)) = some (n, s ++ q) :=
    takeName?_eq_some_iff.mpr ⟨hn, rfl, (h s hs).append hne q⟩
  exact Option.map_eq_some_iff.mpr ⟨(n, s ++ q), hread, rfl⟩

theorem takes_modifier {texts : List String} (hfree : PrefixFree (texts.map String.toList)) :
    Takes (oneOf texts * gap) (dropModifier? (texts.map String.toList)) where
  sound := by
    intro cs rest h
    obtain ⟨k, hk, g, hg, hsplit, -⟩ := (dropModifier?_eq_some_iff hfree).mp h
    exact ⟨k ++ g, Language.append_mem_mul hk hg, by simpa using hsplit⟩
  longest := by
    intro p hp q
    obtain ⟨k, hk, g, hg, rfl⟩ := Language.mem_mul.mp hp
    obtain ⟨rest, hread, hsuffix⟩ := takes_gap.longest hg q
    obtain ⟨g', hg', hsplit, hrest⟩ := dropGap?_eq_some_iff.mp hread
    refine ⟨rest, (dropModifier?_eq_some_iff hfree).mpr ⟨k, hk, g', hg', ?_, hrest⟩, hsuffix⟩
    rw [hsplit, List.append_assoc]

theorem leaves_modifier {texts : List String} (hfree : PrefixFree (texts.map String.toList))
    (h : ∀ s ∈ m, Stops isBlank s) :
    Leaves (dropModifier? (texts.map String.toList)) (oneOf texts * gap) m := by
  intro p hp s hs hne q
  obtain ⟨k, hk, g, hg, rfl⟩ := Language.mem_mul.mp hp
  exact (dropModifier?_eq_some_iff hfree).mpr
    ⟨k, hk, g, hg, (List.append_assoc k g _).symm, (h s hs).append hne q⟩

/-- Two words of which neither begins with the other cannot stand at the same place. `PrefixFree` is
this condition on a list of words. -/
theorem refuses_modifier {texts : List String} (hfree : PrefixFree (texts.map String.toList))
    {text : String}
    (h : ∀ k ∈ texts.map String.toList, ¬ k <+: text.toList ∧ ¬ text.toList <+: k) :
    Refuses (dropModifier? (texts.map String.toList)) (literal text * m) := by
  intro s hs _ q
  obtain ⟨_, rfl, b, -, rfl⟩ := Language.mem_mul.mp hs
  cases hread : dropModifier? (texts.map String.toList) (text.toList ++ b ++ q) with
  | none => rfl
  | some rest =>
    obtain ⟨k, hk, g, -, hsplit, -⟩ := (dropModifier?_eq_some_iff hfree).mp hread
    have hpre : k <+: text.toList ++ b ++ q := ⟨g ++ rest, hsplit⟩
    have hpre' : text.toList <+: text.toList ++ b ++ q := by simp
    rcases List.prefix_or_prefix_of_prefix hpre hpre' with hle | hle
    · exact absurd hle (h k hk).1
    · exact absurd hle (h k hk).2

/-! ## Where a text of a sequence starts -/

variable {p : Char → Bool} {l : Language Char}

theorem stops_mul (hl : ∀ s ∈ l, Stops p s) (hne : [] ∉ l) : ∀ s ∈ l * m, Stops p s := by
  intro s hs
  obtain ⟨a, ha, b, -, rfl⟩ := Language.mem_mul.mp hs
  exact (hl a ha).append (fun h => hne (h ▸ ha)) b

theorem stops_mul_of_nil (hl : ∀ s ∈ l, Stops p s) (hm : ∀ s ∈ m, Stops p s) :
    ∀ s ∈ l * m, Stops p s := by
  intro s hs
  obtain ⟨a, ha, b, hb, rfl⟩ := Language.mem_mul.mp hs
  by_cases hne : a = []
  · subst hne
    exact hm b hb
  · exact (hl a ha).append hne b

theorem stops_optionally (hl : ∀ s ∈ l, Stops p s) : ∀ s ∈ optionally l, Stops p s := by
  intro s hs
  rcases mem_optionally.mp hs with rfl | hs
  · exact stops_nil p
  · exact hl s hs

theorem stops_literal {text : String} (h : Stops p text.toList) :
    ∀ s ∈ literal text, Stops p s := by
  rintro s rfl
  exact h

open scoped Computability in
theorem stops_kstar (hl : ∀ s ∈ l, Stops p s) : ∀ s ∈ l∗, Stops p s := by
  intro s hs
  obtain ⟨items, rfl, hitems⟩ := Language.mem_kstar.mp hs
  clear hs
  induction items with
  | nil => exact stops_nil p
  | cons item items ih =>
    by_cases hne : item = []
    · subst hne
      exact ih fun y hy => hitems y (by simp [hy])
    · exact (hl item (hitems item (by simp))).append hne _

end
end Text
end SpiceKit

import SpiceKit.Proofs.Declaration.Order

/-!
# What stands in a header

Outside its parameter list a header is made of few characters: blanks, word characters, commas and
the two of an arrow. Everything that says "the header ends before this" or "this cannot stand in a
header" goes through that list, so it is written down once (`Header.isPlain`), carried through the
operators of the grammar (`Header.Plain`), and put together in one statement about a whole header:
**`Kind.shape_of_mem_language`**. Only a parameter list may hold anything else, and it holds
everything but a closing parenthesis.
-/

set_option autoImplicit false

namespace SpiceKit

open Text
open scoped Computability

namespace Header

/-- The characters of a header outside its parameter list: blanks, word characters, commas, and the
few that a result type is written with. No brace, parenthesis or semicolon is among them. The one
exception of a header is its parameter list, whose characters are `unclosed`. -/
def isPlain (c : Char) : Bool :=
  isBlank c || isWordChar c || c == ',' || c == '-' || c == '>'

theorem isPlain_of_isBlank {c : Char} (h : isBlank c = true) : isPlain c = true := by
  simp [isPlain, h]

theorem isPlain_of_isWordChar {c : Char} (h : isWordChar c = true) : isPlain c = true := by
  simp [isPlain, h]

/-- A text of the language has no character but plain ones. It is proved of the languages of
`Kind.opening` and `Kind.closing` piece by piece. -/
def Plain (l : Language Char) : Prop := ∀ s ∈ l, ∀ c ∈ s, isPlain c = true

namespace Plain

variable {l m : Language Char}

theorem mul (hl : Plain l) (hm : Plain m) : Plain (l * m) := by
  intro s hs c hc
  obtain ⟨a, ha, b, hb, rfl⟩ := Language.mem_mul.mp hs
  rcases List.mem_append.mp hc with hc | hc
  · exact hl a ha c hc
  · exact hm b hb c hc

theorem optional (hl : Plain l) : Plain (optionally l) := by
  intro s hs c hc
  rcases mem_optionally.mp hs with rfl | hs
  · cases hc
  · exact hl s hs c hc

theorem kstar (hl : Plain l) : Plain (l∗) := by
  intro s hs c hc
  obtain ⟨items, rfl, hitems⟩ := Language.mem_kstar.mp hs
  obtain ⟨item, hitem, hc⟩ := List.mem_flatten.mp hc
  exact hl item (hitems item hitem) c hc

end Plain

theorem plain_blanks : Plain blanks := fun _ hg c hc => isPlain_of_isBlank (hg c hc)

theorem plain_gap : Plain gap := fun _ hg c hc => isPlain_of_isBlank (hg.2 c hc)

theorem plain_names : Plain names := fun _ hn c hc => isPlain_of_isWordChar (hn.2 c hc)

theorem plain_literal {text : String} (h : text.toList.all isPlain = true) :
    Plain (literal text) := by
  rintro s rfl
  exact List.all_eq_true.mp h

theorem plain_clause {keyword : String} (h : keyword.toList.all isPlain = true) :
    Plain (clause keyword) :=
  plain_gap.mul ((plain_literal h).mul (plain_gap.mul plain_names))

theorem plain_listed : Plain listed :=
  plain_blanks.mul ((plain_literal (by decide)).mul (plain_blanks.mul plain_names))

theorem plain_result : Plain result :=
  plain_blanks.mul ((plain_literal (by decide)).mul (plain_blanks.mul plain_names))

end Header

namespace Kind

open Header

theorem plain_opening (kind : Kind) : Plain kind.opening := by
  intro before hbefore c hc
  rcases isBlank_or_isWordChar_of_mem_opening hbefore c hc with h | h
  · exact isPlain_of_isBlank h
  · exact isPlain_of_isWordChar h

theorem plain_closing {kind : Kind} (h : kind ≠ .function) : Plain kind.closing := by
  cases kind with
  | cls =>
    have hextends : Plain (clause "extends") := plain_clause (by decide)
    have himplements : Plain (clause "implements") := plain_clause (by decide)
    exact hextends.optional.mul (himplements.mul plain_listed.kstar).optional
  | interface =>
    intro s hs c hc
    rw [(Language.mem_one s).mp hs] at hc
    cases hc
  | function => exact absurd rfl h

/-- A header of a function up to its parameter list, the list, and what follows.
`shape_of_mem_language` says that every header is of this shape or holds plain characters only. -/
structure ListedAs (header lead parameters tail : List Char) : Prop where
  split : header = lead ++ '(' :: (parameters ++ ')' :: tail)
  lead_plain : ∀ c ∈ lead, isPlain c = true
  unclosed : ')' ∉ parameters
  tail_plain : ∀ c ∈ tail, isPlain c = true

/-- **Outside a parameter list, a header holds plain characters only.** Where braces and semicolons
may stand is known from this alone. -/
theorem shape_of_mem_language {kind : Kind} {header : List Char} (h : header ∈ kind.language) :
    (kind ≠ .function ∧ ∀ c ∈ header, isPlain c = true) ∨
      (kind = .function ∧ ∃ lead parameters tail, ListedAs header lead parameters tail) := by
  by_cases hkind : kind = .function
  · subst hkind
    refine Or.inr ⟨rfl, ?_⟩
    obtain ⟨before, hbefore, b, hb, rfl⟩ := Language.mem_mul.mp h
    obtain ⟨n, hn, after, hafter, rfl⟩ := Language.mem_mul.mp hb
    obtain ⟨list, hlist, tail, htail, rfl⟩ := Language.mem_mul.mp hafter
    obtain ⟨g, hg, ps, hps, rfl⟩ := mem_parameters.mp hlist
    refine ⟨before ++ (n ++ g), ps, tail, by simp, ?_, hps, plain_result.optional tail htail⟩
    exact (plain_opening .function).mul (plain_names.mul plain_blanks) _
      (Language.append_mem_mul hbefore (Language.append_mem_mul hn hg))
  · refine Or.inl ⟨hkind, ?_⟩
    exact (plain_opening kind).mul (plain_names.mul (plain_closing hkind)) header h

theorem bare_function_mem_language {g n v ps : List Char} (hg : g ∈ gap) (hn : n ∈ names)
    (hv : v ∈ blanks) (hps : ')' ∉ ps) :
    (keyword .function).toList ++ (g ++ (n ++ (v ++ '(' :: (ps ++ [')'])))) ∈
      language .function := by
  have hopening : (keyword .function).toList ++ g ∈ opening .function :=
    mem_opening.mpr ⟨[], mem_optionally.mpr (Or.inl rfl), g, hg, rfl⟩
  have hclosing : v ++ '(' :: (ps ++ [')']) ∈ closing .function := by
    have hlist := mem_parameters.mpr ⟨v, hv, ps, hps, rfl⟩
    have hnone : [] ∈ optionally result := mem_optionally.mpr (Or.inl rfl)
    have hboth := Language.append_mem_mul hlist hnone
    rwa [List.append_nil] at hboth
  have hheader := Language.append_mem_mul hopening (Language.append_mem_mul hn hclosing)
  rwa [List.append_assoc] at hheader

end Kind
end SpiceKit

import SpiceKit.Proofs.Redefinition.Line

/-!
# The lines that redefine a name

What a redefinition is judged by is a grammar of one line. A line defines a function if it is any
number of modifiers with a gap behind each, a `def`, a gap, a name, blanks and an opening
parenthesis, with anything behind it (`FunctionLine`); it assigns if it is a name, blanks and an
equals sign, with anything behind it (`AssignmentLine`). **`Source.redefinitions_follow_grammar`**
says that the trimmed lines of a document are read by this grammar and by nothing else.

Reading has no choice to make anywhere. The parts of a line are determined by its text
(`FunctionLine.text_injective`, `AssignmentLine.text_injective`), although a modifier is a name like
any other and so is `def`; and no line is of both forms (`FunctionLine.text_ne`), since a function
line starts with two words and an assignment with one and an equals sign. So the order in which the
two forms are tried, and that whole-line comments are set aside before either, makes no difference.
-/

set_option autoImplicit false

namespace SpiceKit

open Text

namespace Redefinition

/-! ## Lines that define a function -/

@[ext] structure Modifier where
  word : List Char
  behind : List Char
  word_mem : word ∈ oneOf ["static", "final", "abstract"]
  behind_mem : behind ∈ gap

def Modifier.text (m : Modifier) : List Char := m.word ++ m.behind

/-- A line that defines a function, part by part: its modifiers, the gap behind the `def`, the name,
the blanks before the parenthesis, and what stands behind it. The parts carry the proofs that they
are what they are called, so a value is a reading of the line. -/
@[ext] structure FunctionLine where
  modifiers : List Modifier
  gap : List Char
  name : List Char
  space : List Char
  rest : List Char
  gap_mem : gap ∈ Text.gap
  name_mem : name ∈ names
  space_mem : space ∈ blanks

namespace FunctionLine

def leadText (ms : List Modifier) : List Char := ms.flatMap Modifier.text

/-- A function line as it is written. -/
def text (l : FunctionLine) : List Char :=
  leadText l.modifiers ++ ("def".toList ++ (l.gap ++ (l.name ++ (l.space ++ '(' :: l.rest))))

theorem leadText_cons (m : Modifier) (ms : List Modifier) (cs : List Char) :
    leadText (m :: ms) ++ cs = m.word ++ (m.behind ++ (leadText ms ++ cs)) := by
  simp [leadText, Modifier.text]

theorem leadText_mem_lead (ms : List Modifier) : leadText ms ∈ lead := by
  refine Language.mem_kstar.mpr ⟨ms.map Modifier.text, List.flatMap_def, ?_⟩
  intro item hitem
  obtain ⟨m, -, rfl⟩ := List.mem_map.mp hitem
  exact Language.append_mem_mul m.word_mem m.behind_mem

theorem exists_leadText {p : List Char} (hp : p ∈ lead) : ∃ ms, leadText ms = p := by
  obtain ⟨items, rfl, hitems⟩ := Language.mem_kstar.mp hp
  clear hp
  induction items with
  | nil => exact ⟨[], rfl⟩
  | cons item items ih =>
    obtain ⟨k, hk, g, hg, hitem⟩ := Language.mem_mul.mp (hitems item (by simp))
    obtain ⟨ms, hms⟩ := ih fun y hy => hitems y (by simp [hy])
    refine ⟨⟨k, g, hk, hg⟩ :: ms, ?_⟩
    rw [List.flatten_cons, ← hms, ← hitem]
    rfl

theorem functionName?_eq_some_iff_text {line n : List Char} :
    functionName? line = some n ↔ ∃ parts : FunctionLine, parts.text = line ∧ parts.name = n := by
  rw [functionName?_eq_some_iff]
  constructor
  · intro h
    obtain ⟨p, hp, cs, g, v, rest, rfl, hdefines⟩ := h
    obtain ⟨ms, rfl⟩ := exists_leadText hp
    obtain ⟨rfl, hg, hn, hv⟩ := hdefines
    exact ⟨⟨ms, g, n, v, rest, hg, hn, hv⟩, rfl, rfl⟩
  · intro h
    obtain ⟨parts, rfl, rfl⟩ := h
    exact ⟨_, leadText_mem_lead parts.modifiers, _, parts.gap, parts.space, parts.rest, rfl, rfl,
      parts.gap_mem, parts.name_mem, parts.space_mem⟩

/-! ### One reading only -/

theorem stops_leadText (ms : List Modifier) (cs : List Char) :
    Stops isBlank (leadText ms ++ ("def".toList ++ cs)) := by
  obtain ⟨n, hn, more, hline⟩ := exists_names_append (leadText_mem_lead ms) cs
  rw [hline]
  exact (stops_isBlank_of_mem_names hn).append hn.1 more

theorem append_ne_keyword (m : Modifier) (cs cs' : List Char) :
    m.word ++ cs ≠ "def".toList ++ cs' := by
  intro h
  obtain ⟨hmodifier, hkeyword⟩ :=
    Kind.not_comparable_keyword .function .function m.word m.word_mem
  rcases List.prefix_or_prefix_of_prefix ⟨cs, h⟩ (List.prefix_append "def".toList cs') with
    hle | hle
  · exact hmodifier hle
  · exact hkeyword hle

theorem word_unique {m m' : Modifier} {cs cs' : List Char} (h : m.word ++ cs = m'.word ++ cs') :
    m.word = m'.word ∧ cs = cs' := by
  have hfree := Kind.prefixFree_modifiers .function
  have hword : m.word = m'.word := by
    rcases List.prefix_or_prefix_of_prefix ⟨cs, h⟩ (List.prefix_append m'.word cs') with hle | hle
    · exact hfree _ m.word_mem _ m'.word_mem hle
    · exact (hfree _ m'.word_mem _ m.word_mem hle).symm
  rw [hword] at h
  exact ⟨hword, List.append_cancel_left h⟩

/-- **The modifiers of a line, and what stands behind its `def`, are determined by its text.** The
induction is on the modifiers; at each step the word that stands there is one of them or the `def`,
and the two cannot be mixed up. -/
theorem leadText_unique {ms ms' : List Modifier} {cs cs' : List Char}
    (h : leadText ms ++ ("def".toList ++ cs) = leadText ms' ++ ("def".toList ++ cs')) :
    ms = ms' ∧ cs = cs' := by
  -- Induction on the modifiers of the one line, along with those of the other: where one of them has
  -- come to its `def`, so has the other.
  induction ms generalizing ms' with
  | nil =>
    cases ms' with
    | nil => exact ⟨rfl, List.append_cancel_left h⟩
    | cons m' ms' =>
      rw [leadText_cons] at h
      exact absurd h.symm (append_ne_keyword m' _ _)
  | cons m ms ih =>
    rw [leadText_cons] at h
    cases ms' with
    | nil => exact absurd h (append_ne_keyword m _ _)
    | cons m' ms' =>
      rw [leadText_cons] at h
      obtain ⟨hword, h⟩ := word_unique h
      obtain ⟨hbehind, h⟩ := span_unique m.behind_mem.2 m'.behind_mem.2 (stops_leadText ms cs)
        (stops_leadText ms' cs') h
      obtain ⟨rfl, hcs⟩ := ih h
      exact ⟨by rw [Modifier.ext hword hbehind], hcs⟩

/-- **A function line is read in one way only.** -/
theorem text_injective : Function.Injective text := by
  intro l l' h
  obtain ⟨hmodifiers, h⟩ := leadText_unique h
  have hname : ∀ k : FunctionLine, Stops isBlank (k.name ++ (k.space ++ '(' :: k.rest)) := fun k =>
    (stops_isBlank_of_mem_names k.name_mem).append k.name_mem.1 _
  obtain ⟨hgap, h⟩ := span_unique l.gap_mem.2 l'.gap_mem.2 (hname l) (hname l') h
  have hspace : ∀ k : FunctionLine, Stops isWordChar (k.space ++ '(' :: k.rest) := fun k =>
    stops_isWordChar_append_cons k.space_mem (by decide) k.rest
  obtain ⟨hname, h⟩ := span_unique l.name_mem.2 l'.name_mem.2 (hspace l) (hspace l') h
  have hopen : ∀ rest, Stops isBlank ('(' :: rest) := fun rest => stops_cons.mpr (by decide)
  obtain ⟨hspace, h⟩ := span_unique l.space_mem l'.space_mem (hopen l.rest) (hopen l'.rest) h
  exact FunctionLine.ext hmodifiers hgap hname hspace (List.cons.inj h).2

theorem exists_two_words (l : FunctionLine) :
    ∃ n ∈ names, ∃ g ∈ Text.gap, ∃ n' ∈ names, ∃ more, l.text = n ++ (g ++ (n' ++ more)) := by
  unfold text
  cases l.modifiers with
  | nil =>
    exact ⟨_, Kind.keyword_mem_names .function, l.gap, l.gap_mem, l.name, l.name_mem, _, rfl⟩
  | cons m ms =>
    obtain ⟨n', hn', more, hline⟩ := exists_names_append (leadText_mem_lead ms)
      (l.gap ++ (l.name ++ (l.space ++ '(' :: l.rest)))
    refine ⟨m.word, Kind.modifier_mem_names .function _ m.word_mem, m.behind, m.behind_mem, n', hn',
      more, ?_⟩
    rw [leadText_cons, hline]

end FunctionLine

/-! ## Lines that assign -/

/-- A line that assigns, part by part: the name, the blanks before the equals sign, and what stands
behind it. As with `FunctionLine`, a value is a reading of the line, and there is one at most. -/
@[ext] structure AssignmentLine where
  name : List Char
  space : List Char
  rest : List Char
  name_mem : name ∈ names
  space_mem : space ∈ blanks

namespace AssignmentLine

/-- An assignment as it is written. -/
def text (l : AssignmentLine) : List Char := l.name ++ (l.space ++ '=' :: l.rest)

theorem stops_space (l : AssignmentLine) : Stops isWordChar (l.space ++ '=' :: l.rest) :=
  stops_isWordChar_append_cons l.space_mem (by decide) l.rest

theorem stops_equals (rest : List Char) : Stops isBlank ('=' :: rest) := stops_cons.mpr (by decide)

theorem assignedName?_eq_some_iff_text {line n : List Char} :
    assignedName? line = some n ↔ ∃ parts : AssignmentLine, parts.text = line ∧ parts.name = n := by
  unfold assignedName?
  constructor
  · intro hread
    obtain ⟨⟨name, behind⟩, hname, hequals⟩ := Option.bind_eq_some_iff.mp hread
    obtain ⟨hn, rfl, -⟩ := takeName?_eq_some_iff.mp hname
    simp only at hequals
    split at hequals
    · rename_i rest hbehind
      obtain rfl := Option.some.inj hequals
      obtain ⟨v, hv, rfl, -⟩ := dropGap_eq_iff.mp hbehind
      exact ⟨⟨name, v, rest, hn, hv⟩, rfl, rfl⟩
    · cases hequals
  · intro h
    obtain ⟨parts, rfl, rfl⟩ := h
    refine Option.bind_eq_some_iff.mpr ⟨(parts.name, parts.space ++ '=' :: parts.rest),
      takeName?_eq_some_iff.mpr ⟨parts.name_mem, rfl, parts.stops_space⟩, ?_⟩
    have hbehind : dropGap (parts.space ++ '=' :: parts.rest) = '=' :: parts.rest :=
      dropGap_eq_iff.mpr ⟨parts.space, parts.space_mem, rfl, stops_equals parts.rest⟩
    simp only [hbehind]

/-- **An assignment is read in one way only.** -/
theorem text_injective : Function.Injective text := by
  intro l l' h
  obtain ⟨hname, h⟩ := span_unique l.name_mem.2 l'.name_mem.2 l.stops_space l'.stops_space h
  obtain ⟨hspace, h⟩ := span_unique l.space_mem l'.space_mem (stops_equals l.rest)
    (stops_equals l'.rest) h
  exact AssignmentLine.ext hname hspace (List.cons.inj h).2

end AssignmentLine

/-- **No line is of both forms**: behind its first word and a gap a function line has another word,
where an assignment has its equals sign. The second word is found by `exists_two_words`. -/
theorem FunctionLine.text_ne (l : FunctionLine) (a : AssignmentLine) : l.text ≠ a.text := by
  intro h
  obtain ⟨n, hn, g, hg, n', hn', more, htext⟩ := l.exists_two_words
  rw [htext] at h
  have hgap : Stops isWordChar (g ++ (n' ++ more)) :=
    (stops_isWordChar_of_mem_gap hg).append hg.1 _
  obtain ⟨-, h⟩ := span_unique hn.2 a.name_mem.2 hgap a.stops_space h
  have hword : Stops isBlank (n' ++ more) := (stops_isBlank_of_mem_names hn').append hn'.1 more
  obtain ⟨-, h⟩ := span_unique hg.2 a.space_mem hword (AssignmentLine.stops_equals a.rest) h
  cases n' with
  | nil => exact hn'.1 rfl
  | cons c n' =>
    obtain ⟨rfl, -⟩ := List.cons.inj h
    exact absurd (hn'.2 '=' (by simp)) (by decide)

/-! ## Comparisons -/

/-- What makes an assignment look like a condition. A line that holds one of them anywhere is no
`AssignmentLine` that is reported. -/
def comparisons : List String := ["==", "!=", "<=", ">="]

theorem pair_prefix_iff {x y c : Char} {cs : List Char} :
    [x, y] <+: c :: cs ↔ c = x ∧ cs.head? = some y := by
  cases cs with
  | nil => simp
  | cons d cs => simp [eq_comm (a := x), eq_comm (a := y)]

theorem comparison_prefix_iff {c : Char} {cs : List Char} :
    (∃ op ∈ comparisons, op.toList <+: c :: cs) ↔
      (c = '=' ∨ c = '!' ∨ c = '<' ∨ c = '>') ∧ cs.head? = some '=' := by
  have hops : (∃ op ∈ comparisons, op.toList <+: c :: cs) ↔
      ['=', '='] <+: c :: cs ∨ ['!', '='] <+: c :: cs ∨ ['<', '='] <+: c :: cs ∨
        ['>', '='] <+: c :: cs := by
    simp [comparisons]
  rw [hops]
  simp only [pair_prefix_iff, or_and_right]

theorem hasComparison_eq_true_iff {cs : List Char} :
    hasComparison cs = true ↔ ∃ op ∈ comparisons, op.toList <:+: cs := by
  induction cs with
  | nil => simp [hasComparison, comparisons]
  | cons c cs ih =>
    -- A comparison stands at the front, or further on.
    simp only [List.infix_cons_iff, and_or_left, exists_or]
    rw [hasComparison, Bool.or_eq_true, ih, comparison_prefix_iff]
    simp [or_assoc]

theorem hasComparison_eq_false_iff {cs : List Char} :
    hasComparison cs = false ↔ ∀ op ∈ comparisons, ¬ op.toList <:+: cs := by
  rw [← Bool.not_eq_true, hasComparison_eq_true_iff]
  simp only [not_exists, not_and]

/-! ## What a line redefines -/

theorem ofTrimmed?_assignment_iff {reserved : List String} {line : List Char} {name : String} :
    ofTrimmed? reserved line = some (name, .assignment) ↔
      name ∈ reserved ∧ assignedName? line = some name.toList ∧ hasComparison line = false := by
  unfold ofTrimmed?
  constructor
  · intro h
    split at h
    · cases h
    · split at h
      · split at h
        · cases h
        · cases h
      · split at h
        · rename_i n hname
          split at h
          · rename_i hreserved
            obtain ⟨rfl, -⟩ := Prod.mk.inj (Option.some.inj h)
            exact ⟨hreserved.1, by rw [hname, String.toList_ofList], hreserved.2⟩
          · cases h
        · cases h
  · intro h
    obtain ⟨hreserved, hname, hcomparison⟩ := h
    obtain ⟨parts, htext, -⟩ := AssignmentLine.assignedName?_eq_some_iff_text.mp hname
    -- What is tried before an assignment does not apply to such a line.
    have hcomment : isComment line = false := by
      rw [← htext]
      exact isComment_of_names_append parts.name_mem _
    have hfunction : functionName? line = none := by
      apply Option.eq_none_iff_forall_ne_some.mpr
      intro n hn
      obtain ⟨l, hl, -⟩ := FunctionLine.functionName?_eq_some_iff_text.mp hn
      exact l.text_ne parts (hl.trans htext.symm)
    simp [hcomment, hfunction, hname, hreserved, hcomparison]

def below (count : Nat) (r : Redefinition) : Redefinition := { r with line := r.line + count }

/-- Lines are judged alone, and their number only goes into the redefinition. -/
theorem lineRule_ofLine? (reserved : List String) :
    LineRule (ofLine? reserved) (fun r => r.line) below where
  line_eq := by
    intro number line r h
    obtain ⟨p, -, rfl⟩ := Option.map_eq_some_iff.mp h
    rfl
  judge_add := by
    intro number count line
    unfold ofLine?
    rw [Option.map_map]
    rfl

end Redefinition

namespace Source

open Redefinition

variable {source : Source} {reserved : List String}

theorem mem_redefinitions_iff_getElem? {name : String} {number : Int} {form : Form} :
    ⟨name, number, form⟩ ∈ source.redefinitions reserved ↔
      ∃ (i : Nat) (line : List Char), source.lines[i]? = some line ∧ number = i + 1 ∧
        ofTrimmed? reserved (trim line) = some (name, form) := by
  rw [redefinitions_eq, mem_judged_iff]
  simp only [ofLine?_one_add_iff]
  rfl

theorem redefinitions_pairwise (source : Source) (reserved : List String) :
    (source.redefinitions reserved).Pairwise fun r s => r.line < s.line :=
  (lineRule_ofLine? reserved).pairwise 1 source.text

/-- **Redefinitions follow a grammar of lines.** A function is reported on a line, counted from one,
exactly when its name is reserved and the trimmed line is a function line with that name; an
assignment is reported exactly when its name is reserved and the trimmed line is an assignment line
with that name and holds no comparison. A line is read in one way only, no line is of both forms,
and what is reported is in strict order of line, so that there is one at most on each. The forms are
`FunctionLine` and `AssignmentLine`, each with the parts of which its text is made. -/
theorem redefinitions_follow_grammar (source : Source) (reserved : List String) :
    (∀ (name : String) (number : Int),
      ⟨name, number, .function⟩ ∈ source.redefinitions reserved ↔
        ∃ (i : Nat) (line : List Char), source.lines[i]? = some line ∧ number = i + 1 ∧
          name ∈ reserved ∧
          ∃ parts : FunctionLine, parts.text = trim line ∧ parts.name = name.toList) ∧
    (∀ (name : String) (number : Int),
      ⟨name, number, .assignment⟩ ∈ source.redefinitions reserved ↔
        ∃ (i : Nat) (line : List Char), source.lines[i]? = some line ∧ number = i + 1 ∧
          name ∈ reserved ∧
          (∃ parts : AssignmentLine, parts.text = trim line ∧ parts.name = name.toList) ∧
          ∀ op ∈ comparisons, ¬ op.toList <:+: trim line) ∧
    Function.Injective FunctionLine.text ∧ Function.Injective AssignmentLine.text ∧
    (∀ (l : FunctionLine) (a : AssignmentLine), l.text ≠ a.text) ∧
    (source.redefinitions reserved).Pairwise fun r s => r.line < s.line := by
  refine ⟨?_, ?_, FunctionLine.text_injective, AssignmentLine.text_injective,
    FunctionLine.text_ne, source.redefinitions_pairwise reserved⟩
  · intro name number
    simp only [mem_redefinitions_iff_getElem?, ofTrimmed?_function_iff,
      FunctionLine.functionName?_eq_some_iff_text]
  · intro name number
    simp only [mem_redefinitions_iff_getElem?, ofTrimmed?_assignment_iff,
      AssignmentLine.assignedName?_eq_some_iff_text, hasComparison_eq_false_iff]

set_option maxRecDepth 4000 in
/-- A modifier may stand before a function whose name is `def`. There is one way to read the line:
the first `def` is the keyword, and the second one the name. -/
theorem redefinitions_follow_grammar_def :
    ⟨"def", 2, .function⟩ ∈ (ofString "a;\n static def def (").redefinitions ["def"] ∧
      ∃ l : FunctionLine, l.text = "static def def (".toList ∧ l.name = "def".toList ∧
        l.modifiers.map Modifier.word = ["static".toList] ∧
        ∀ other : FunctionLine, other.text = l.text → other = l := by
  have hname : "def".toList ∈ names := Kind.keyword_mem_names .function
  have htrim : trim " static def def (".toList = "static def def (".toList := by decide
  obtain ⟨hfunction, -, hinjective, -⟩ :=
    redefinitions_follow_grammar (ofString "a;\n static def def (") ["def"]
  let l : FunctionLine :=
    ⟨[⟨"static".toList, [' '], mem_oneOf.mpr (by decide), space_mem_gap⟩], [' '], "def".toList, [' '],
      [], space_mem_gap, hname, space_mem_gap.2⟩
  refine ⟨(hfunction "def" 2).mpr ?_, l, rfl, rfl, rfl, fun other h => hinjective h⟩
  exact ⟨1, " static def def (".toList, by decide, rfl, by decide, l, htrim.symm, rfl⟩

end Source
end SpiceKit

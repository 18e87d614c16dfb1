import SpiceKit.Finding
import SpiceKit.Proofs.Source.LineByLine
import SpiceKit.Proofs.Text.Trim

/-!
# What a finding marks

A line is judged on its trimmed text and marked on its raw one, and the line itself is cut out of
the document twice over: by splitting the text, where it is judged, and by the index of line starts,
where its mark is looked up. **`Source.findings_mark_last`** ties these together. Findings stand on
exactly the lines whose last character that is not blank is no terminator
(`Finding.LacksTerminator`), one on each and in order; and each of them marks one character of the
document, the last one of its line once a single carriage return at the end is left out
(`Finding.LastOf`).

The mark cannot run out of the line on its left. The columns are computed by subtraction, and a line
that is empty but for its carriage return would put the mark before the line; but such a line is
blank, and a blank line has no finding (`Finding.LacksTerminator.exists_lastOf`).
-/

set_option autoImplicit false

namespace SpiceKit

open Text

namespace Finding

variable {line front : List Char} {c : Char}

/-! ## Lines that are found -/

/-- The last character of a line that is not blank is no terminator; there is such a character. The
rule of the library finds something on just such lines (`ofLine?_eq_some_iff`). -/
def LacksTerminator (line : List Char) : Prop :=
  ∃ front c back, line = front ++ c :: back ∧ isBlank c = false ∧
    (∀ b ∈ back, isBlank b = true) ∧ c ∉ [';', ':', '{', '}']

theorem isTerminated_eq_false_iff : isTerminated line = false ↔ LacksTerminator line := by
  unfold isTerminated LacksTerminator
  constructor
  · intro h
    cases hlast : (trim line).getLast? with
    | none => simp [hlast] at h
    | some c =>
      obtain ⟨front, back, hsplit, hc, hback⟩ := getLast?_trim_eq_some_iff.mp hlast
      simp only [hlast, decide_eq_false_iff_not] at h
      exact ⟨front, c, back, hsplit, hc, hback, h⟩
  · intro h
    obtain ⟨front, c, back, hsplit, hc, hback, hnot⟩ := h
    have hlast := getLast?_trim_eq_some_iff.mpr ⟨front, back, hsplit, hc, hback⟩
    simp only [hlast, decide_eq_false_iff_not]
    exact hnot

/-! ## What is marked -/

/-- The last character of a line, a single carriage return at its end aside, and what stands before
it. It is what a finding marks, also where the line ends in several carriage returns.
`findings_mark_last` is stated with it. -/
def LastOf (line front : List Char) (c : Char) : Prop :=
  line = front ++ [c, '\r'] ∨ line = front ++ [c] ∧ c ≠ '\r'

theorem LastOf.dropReturn_eq (h : LastOf line front c) : dropReturn line = front ++ [c] := by
  unfold dropReturn
  rcases h with rfl | ⟨rfl, hc⟩
  · have hsplit : front ++ [c, '\r'] = (front ++ [c]) ++ ['\r'] := by simp
    rw [hsplit, List.getLast?_concat, if_pos rfl, List.dropLast_concat]
  · rw [List.getLast?_concat, if_neg (by simpa using hc)]

theorem LastOf.getElem? {cs : List Char} (h : LastOf cs front c) : cs[front.length]? = some c := by
  rcases h with rfl | ⟨rfl, -⟩
  · simp
  · simp

theorem LastOf.lt_length (h : LastOf line front c) : front.length < line.length :=
  (List.getElem?_eq_some_iff.mp h.getElem?).1

/-- **A line that lacks its terminator has a character to mark.** A line of blanks lacks none, so
there is a character that is not blank. -/
theorem LacksTerminator.exists_lastOf (h : LacksTerminator line) :
    ∃ front c, LastOf line front c := by
  obtain ⟨before, c, back, rfl, hc, hback, -⟩ := h
  rcases List.eq_nil_or_concat back with rfl | ⟨blanks, last, rfl⟩
  · refine ⟨before, c, Or.inr ⟨rfl, ?_⟩⟩
    rintro rfl
    exact absurd hc (by decide)
  · by_cases hreturn : last = '\r'
    · -- Before the carriage return stands a blank, or the character that is not blank itself.
      subst hreturn
      rcases List.eq_nil_or_concat blanks with rfl | ⟨more, b, rfl⟩
      · exact ⟨before, c, Or.inl rfl⟩
      · exact ⟨before ++ c :: more, b, Or.inl (by simp)⟩
    · exact ⟨before ++ c :: blanks, last, Or.inr ⟨by simp, hreturn⟩⟩

theorem ofLine?_eq_some_iff {number : Nat} {d : Finding} :
    ofLine? number line = some d ↔ LacksTerminator line ∧
      ∃ front c, LastOf line front c ∧
        d = ⟨.missingTerminator, number, front.length, front.length + 1⟩ := by
  have hmark : ∀ {front c}, LastOf line front c →
      (⟨.missingTerminator, number, (dropReturn line).length - 1, (dropReturn line).length⟩ :
        Finding) = ⟨.missingTerminator, number, front.length, front.length + 1⟩ := by
    intro front c hlast
    rw [hlast.dropReturn_eq, List.length_append, List.length_singleton, Nat.add_sub_cancel]
  unfold ofLine?
  constructor
  · intro h
    split at h
    · cases h
    · rename_i hjudged
      have hlacks := isTerminated_eq_false_iff.mp (Bool.eq_false_of_not_eq_true hjudged)
      obtain ⟨front, c, hlast⟩ := hlacks.exists_lastOf
      exact ⟨hlacks, front, c, hlast, (Option.some.inj h).symm.trans (hmark hlast)⟩
  · intro h
    obtain ⟨hlacks, front, c, hlast, rfl⟩ := h
    have hjudged := isTerminated_eq_false_iff.mpr hlacks
    rw [hjudged, ← hmark hlast]
    rfl

/-- A finding so many lines further down, which is how the findings of the second of two texts are
found behind the first. -/
def below (count : Nat) (d : Finding) : Finding := { d with line := d.line + count }

/-- Lines are judged alone, and their number only goes into the finding. So the results on a
`LineRule` are results on findings. -/
theorem lineRule_ofLine? : LineRule ofLine? (fun d => (d.line : Int)) below where
  line_eq := by
    intro number line d h
    obtain ⟨-, front, c, -, rfl⟩ := ofLine?_eq_some_iff.mp h
    rfl
  judge_add := by
    intro number count line
    unfold ofLine?
    split
    · rfl
    · rfl

end Finding

namespace Source

open Finding

variable {source : Source} {d : Finding}

theorem findings_eq (source : Source) : source.findings = judged Finding.ofLine? 0 source.text := rfl

theorem mem_findings_iff : d ∈ source.findings ↔
    ∃ i before line after, LineAt source.text i before line after ∧ LacksTerminator line ∧
      ∃ front c, LastOf line front c ∧
        d = ⟨.missingTerminator, i, front.length, front.length + 1⟩ := by
  rw [findings_eq, mem_judged_iff_lineAt]
  simp only [Nat.zero_add, ofLine?_eq_some_iff]

theorem findings_pairwise (source : Source) :
    source.findings.Pairwise fun d e => d.line < e.line := by
  have hlines := lineRule_ofLine?.pairwise 0 source.text
  exact hlines.imp fun hlt => Int.ofNat_lt.mp hlt

/-- There is a finding on a line exactly when the document has the line and it lacks its terminator.
`LacksTerminator` is the condition, on the text of the line alone. -/
theorem exists_finding_iff {i : Nat} : (∃ d ∈ source.findings, d.line = i) ↔
    i < source.lineCount ∧ LacksTerminator (source.lineText i) := by
  constructor
  · intro h
    obtain ⟨d, hd, rfl⟩ := h
    obtain ⟨i, before, line, after, hat, hlacks, front, c, -, rfl⟩ := mem_findings_iff.mp hd
    have hcount := lineCount_of_lineAt hat
    refine ⟨?_, ?_⟩
    · show i < source.lineCount
      omega
    · show LacksTerminator (source.lineText i)
      rw [lineText_of_lineAt hat]
      exact hlacks
  · intro h
    obtain ⟨hlt, hlacks⟩ := h
    obtain ⟨before, line, after, hat⟩ := exists_lineAt_of_lt hlt
    rw [lineText_of_lineAt hat] at hlacks
    obtain ⟨front, c, hlast⟩ := hlacks.exists_lastOf
    exact ⟨_, mem_findings_iff.mpr ⟨i, before, line, after, hat, hlacks, front, c, hlast, rfl⟩, rfl⟩

/-- **A finding marks the last character of a line that lacks its terminator.** There is a finding
on a line exactly when the document has that line, and the last character on it that is not blank is
no terminator; the findings are in strict order of line, so that there is one at most on each. What
a finding marks is one column wide and lies on its line, the offsets of its two columns are next to
each other, and the character between them is the last one of the line, a single carriage return at
the end of the line aside. What is marked is `LastOf` of the line; the order is `findings_pairwise`. -/
theorem findings_mark_last (source : Source) :
    (∀ i : Nat, (∃ d ∈ source.findings, d.line = i) ↔
      i < source.lineCount ∧ LacksTerminator (source.lineText i)) ∧
    (source.findings.Pairwise fun d e => d.line < e.line) ∧
    ∀ d ∈ source.findings,
      d.stop = d.start + 1 ∧ d.stop ≤ (source.lineText d.line).length ∧
      source.offsetAt ⟨d.line, d.stop⟩ = source.offsetAt ⟨d.line, d.start⟩ + 1 ∧
      ∃ front c, LastOf (source.lineText d.line) front c ∧ d.start = front.length ∧
        source.text[source.offsetAt ⟨d.line, d.start⟩]? = some c := by
  refine ⟨fun i => exists_finding_iff, source.findings_pairwise, ?_⟩
  intro d hd
  obtain ⟨i, before, line, after, hat, hlacks, front, c, hlast, rfl⟩ := mem_findings_iff.mp hd
  have hlt := hlast.lt_length
  have hstart : source.offsetAt ⟨i, (front.length : Nat)⟩ = before.length + front.length :=
    offsetAt_of_lineAt hat hlt.le
  have hstop : source.offsetAt ⟨i, (front.length + 1 : Nat)⟩ =
      before.length + (front.length + 1) := offsetAt_of_lineAt hat hlt
  simp only [hstart, hstop, lineText_of_lineAt hat]
  refine ⟨trivial, hlt, (Nat.add_assoc _ _ 1).symm, front, c, hlast, rfl, ?_⟩
  rw [hat.split, List.getElem?_append_right (Nat.le_add_right _ _), Nat.add_sub_cancel_left,
    List.getElem?_append_left hlt]
  exact hlast.getElem?

set_option maxRecDepth 4000 in
/-- Two carriage returns: the line lacks its terminator, and of the two returns behind it the first
one is marked. -/
theorem findings_mark_last_returns :
    (ofString "a;\nx \r\r\n").findings = [⟨.missingTerminator, 1, 2, 3⟩] ∧
      ∃ front, LastOf ((ofString "a;\nx \r\r\n").lineText 1) front '\r' ∧ front.length = 2 ∧
        (ofString "a;\nx \r\r\n").text[(ofString "a;\nx \r\r\n").offsetAt ⟨1, 2⟩]? = some '\r' := by
  have hfindings : (ofString "a;\nx \r\r\n").findings = [⟨.missingTerminator, 1, 2, 3⟩] := by decide
  have hmem : ⟨.missingTerminator, 1, 2, 3⟩ ∈ (ofString "a;\nx \r\r\n").findings := by
    simp [hfindings]
  obtain ⟨-, -, -, front, c, hlast, hlength, hchar⟩ := (findings_mark_last _).2.2 _ hmem
  have hat : (ofString "a;\nx \r\r\n").text[(ofString "a;\nx \r\r\n").offsetAt ⟨1, 2⟩]? =
      some '\r' := by decide
  obtain rfl : c = '\r' := Option.some.inj (hchar.symm.trans hat)
  exact ⟨hfindings, front, hlast, hlength.symm, hat⟩

end Source
end SpiceKit

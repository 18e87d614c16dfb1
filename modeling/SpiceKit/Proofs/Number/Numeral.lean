import SpiceKit.Number.Numeral
import SpiceKit.Proofs.Text.Piece

/-!
# Spelled numerals are read

A numeral is spelled by its parts: a sign, the digits before and behind the point, the sign and the
digits of the exponent. **Whatever is spelled by such parts is read as just them**, up to where the
text goes on with something that is no part of a numeral (`Numeral.read?_text`).

`Spelled` carries the parts and `WellFormed` what they have to satisfy. A lemma for each part says
that it is taken as written when what stands behind does not continue it (`Stops`), and the last of
them chains the parts.
-/

set_option autoImplicit false

namespace SpiceKit
namespace Numeral

open Text (Stops stops_cons span_eq)

/-! ## Digits -/

def IsDigits (cs : List Char) : Prop := cs ≠ [] ∧ ∀ c ∈ cs, isDigit c = true

def IsWhole (cs : List Char) : Prop := cs = ['0'] ∨ IsDigits cs ∧ cs.head? ≠ some '0'

theorem isDigits_zero : IsDigits ['0'] := ⟨nofun, List.forall_mem_singleton.mpr rfl⟩

theorem digitsValue_eq (digits : List Char) : digitsValue digits = Nat.ofDigitChars 10 digits 0 := by
  rw [Nat.ofDigitChars_eq_foldl]
  unfold digitsValue
  congr 1
  funext value c
  rw [Nat.mul_comm]
  rfl

theorem digitsValue_append_zeros (digits : List Char) (count : Nat) :
    digitsValue (digits ++ List.replicate count '0') = digitsValue digits * 10 ^ count := by
  simp only [digitsValue_eq, Nat.ofDigitChars_append, Nat.ofDigitChars_replicate_zero, Nat.mul_comm]

theorem digitsValue_zeros_append (digits : List Char) (count : Nat) :
    digitsValue (List.replicate count '0' ++ digits) = digitsValue digits := by
  simp only [digitsValue_eq, Nat.ofDigitChars_append, Nat.ofDigitChars_replicate_zero, Nat.mul_zero]

theorem digitsValue_toDigits (n : Nat) : digitsValue (Nat.toDigits 10 n) = n := by
  rw [digitsValue_eq, Nat.ofDigitChars_ten_toDigits]

theorem takeDigits?_append {digits rest : List Char} (h : IsDigits digits)
    (hrest : Stops isDigit rest) : takeDigits? (digits ++ rest) = some (digits, rest) := by
  obtain ⟨hne, hall⟩ := h
  obtain ⟨htake, hdrop⟩ := span_eq hall hrest
  rw [takeDigits?, htake, hdrop]
  cases digits with
  | nil => exact absurd rfl hne
  | cons c digits => rfl

theorem takeWhole?_append {whole rest : List Char} (h : IsWhole whole)
    (hrest : Stops isDigit rest) : takeWhole? (whole ++ rest) = some (whole, rest) := by
  rcases h with rfl | ⟨hdigits, hhead⟩
  · rfl
  · rw [← takeDigits?_append hdigits hrest]
    cases whole with
    | nil => exact absurd rfl hdigits.1
    | cons c whole =>
      rw [List.cons_append, takeWhole?]
      intro cs heq
      exact hhead (congrArg some (List.cons.inj heq).1)

/-! ## Spelling -/

/-- A numeral as it is spelled: the digits of its parts, and whether it and its exponent have a
minus sign. `Spelled.text` writes it down and `Spelled.numeral` says what it stands for;
`read?_text` ties the two together. -/
structure Spelled where
  negative : Bool
  whole : List Char
  fraction : Option (List Char) := none
  exponent : Option (Bool × List Char) := none

namespace Spelled

/-- The parts are digits, and the whole part has no needless zeros. -/
structure WellFormed (spelled : Spelled) : Prop where
  whole : IsWhole spelled.whole
  fraction : ∀ digits ∈ spelled.fraction, IsDigits digits
  exponent : ∀ part ∈ spelled.exponent, IsDigits part.2

def signText (negative : Bool) : List Char := if negative then ['-'] else []

def fractionText : Option (List Char) → List Char
  | none => []
  | some digits => '.' :: digits

def exponentText : Option (Bool × List Char) → List Char
  | none => []
  | some (negative, digits) => 'e' :: (if negative then '-' else '+') :: digits

def text (spelled : Spelled) : List Char :=
  signText spelled.negative ++ spelled.whole ++ fractionText spelled.fraction ++
    exponentText spelled.exponent

def numeral (spelled : Spelled) : Numeral where
  negative := spelled.negative
  whole := spelled.whole
  fraction := spelled.fraction
  exponent := spelled.exponent.map fun (negative, digits) =>
    if negative then -(digitsValue digits : Int) else digitsValue digits

end Spelled

theorem exists_head_text {spelled : Spelled} (h : spelled.WellFormed) :
    ∃ c cs, spelled.text = c :: cs ∧ (c = '-' ∨ isDigit c = true) := by
  have hwhole : IsDigits spelled.whole := by
    rcases h.whole with hzero | ⟨hdigits, -⟩
    · rw [hzero]
      exact isDigits_zero
    · exact hdigits
  unfold Spelled.text Spelled.signText
  cases spelled.negative with
  | true => exact ⟨'-', _, rfl, Or.inl rfl⟩
  | false =>
    obtain ⟨c, cs, hcons⟩ := List.exists_cons_of_ne_nil hwhole.1
    refine ⟨c, cs ++ Spelled.fractionText spelled.fraction ++
      Spelled.exponentText spelled.exponent, ?_, Or.inr (hwhole.2 c (by simp [hcons]))⟩
    rw [hcons]
    rfl

def isNumeralChar (c : Char) : Bool := isDigit c || c == '-' || c == '.' || c == 'e' || c == '+'

theorem isNumeralChar_of_isDigit {c : Char} (h : isDigit c = true) : isNumeralChar c = true := by
  simp [isNumeralChar, h]

theorem isNumeralChar_of_mem_text {spelled : Spelled} (h : spelled.WellFormed) {c : Char}
    (hc : c ∈ spelled.text) : isNumeralChar c = true := by
  simp only [Spelled.text, List.mem_append] at hc
  rcases hc with ((hsign | hwhole) | hfraction) | hexponent
  · unfold Spelled.signText at hsign
    split at hsign
    · rw [List.mem_singleton.mp hsign]
      decide
    · cases hsign
  · rcases h.whole with hzero | ⟨hdigits, -⟩
    · rw [hzero] at hwhole
      rw [List.mem_singleton.mp hwhole]
      decide
    · exact isNumeralChar_of_isDigit (hdigits.2 c hwhole)
  · cases hpart : spelled.fraction with
    | none =>
      rw [hpart] at hfraction
      cases hfraction
    | some digits =>
      rw [hpart] at hfraction
      rcases List.mem_cons.mp hfraction with rfl | hmem
      · decide
      · exact isNumeralChar_of_isDigit ((h.fraction digits hpart).2 c hmem)
  · cases hpart : spelled.exponent with
    | none =>
      rw [hpart] at hexponent
      cases hexponent
    | some part =>
      rw [hpart] at hexponent
      rcases List.mem_cons.mp hexponent with rfl | hmem
      · decide
      · rcases List.mem_cons.mp hmem with rfl | hmem
        · split <;> decide
        · exact isNumeralChar_of_isDigit ((h.exponent part hpart).2 c hmem)

/-- A character with which a numeral might go on. What stands behind a numeral that is to be read
whole must start with none of these. -/
def continues (c : Char) : Bool := isDigit c || c == '.' || c == 'e' || c == 'E'

theorem stops_isDigit_of_continues {rest : List Char} (h : Stops continues rest) :
    Stops isDigit rest := by
  intro c hc
  have hnot := h c hc
  simp only [continues, Bool.or_eq_false_iff] at hnot
  exact hnot.1.1.1

theorem takeExponent_append {exponent : Option (Bool × List Char)} {rest : List Char}
    (h : ∀ part ∈ exponent, IsDigits part.2) (hrest : Stops continues rest) :
    takeExponent (Spelled.exponentText exponent ++ rest) =
      (exponent.map fun (negative, digits) =>
        if negative then -(digitsValue digits : Int) else (digitsValue digits : Int), rest) := by
  cases exponent with
  | none =>
    cases rest with
    | nil => rfl
    | cons c rest =>
      have hnot := stops_cons.mp hrest
      simp only [continues, Bool.or_eq_false_iff, beq_eq_false_iff_ne] at hnot
      rw [Spelled.exponentText, List.nil_append, takeExponent, if_neg (by simp [hnot])]
      rfl
  | some part =>
    obtain ⟨negative, digits⟩ := part
    have hdigits := takeDigits?_append (h _ rfl) (stops_isDigit_of_continues hrest)
    have hvalue : exponentValue? ((if negative then '-' else '+') :: (digits ++ rest)) =
        some (if negative then -(digitsValue digits : Int) else (digitsValue digits : Int), rest) := by
      cases negative with
      | false => simp only [Bool.false_eq_true, if_false, exponentValue?, hdigits, Option.map_some]
      | true => simp only [if_true, exponentValue?, hdigits, Option.map_some]
    simp only [Spelled.exponentText, List.cons_append, takeExponent, true_or, if_true, hvalue,
      Option.map_some]

theorem stops_exponentText {exponent : Option (Bool × List Char)} {rest : List Char}
    (hrest : Stops continues rest) : Stops isDigit (Spelled.exponentText exponent ++ rest) := by
  cases exponent with
  | none => exact stops_isDigit_of_continues hrest
  | some part => exact stops_cons.mpr (by decide)

theorem takeFraction_append {fraction : Option (List Char)} {exponent : Option (Bool × List Char)}
    {rest : List Char} (h : ∀ digits ∈ fraction, IsDigits digits) (hrest : Stops continues rest) :
    takeFraction (Spelled.fractionText fraction ++ (Spelled.exponentText exponent ++ rest)) =
      (fraction, Spelled.exponentText exponent ++ rest) := by
  cases fraction with
  | none =>
    cases exponent with
    | none =>
      cases rest with
      | nil => rfl
      | cons c rest =>
        have hnot := stops_cons.mp hrest
        simp only [continues, Bool.or_eq_false_iff, beq_eq_false_iff_ne] at hnot
        simp only [Spelled.fractionText, Spelled.exponentText, List.nil_append]
        rw [takeFraction]
        intro cs heq
        exact hnot.1.1.2 (List.cons.inj heq).1
    | some part => rfl
  | some digits =>
    simp only [Spelled.fractionText, List.cons_append, takeFraction,
      takeDigits?_append (h digits rfl) (stops_exponentText hrest)]

theorem stops_fractionText {fraction : Option (List Char)} {exponent : Option (Bool × List Char)}
    {rest : List Char} (hrest : Stops continues rest) :
    Stops isDigit (Spelled.fractionText fraction ++ (Spelled.exponentText exponent ++ rest)) := by
  cases fraction with
  | none => exact stops_exponentText hrest
  | some digits => exact stops_cons.mpr (by decide)

theorem append_ne_minus {whole rest : List Char} (h : IsWhole whole) (cs : List Char) :
    whole ++ rest ≠ '-' :: cs := by
  rcases h with rfl | ⟨⟨hne, hall⟩, -⟩
  · intro heq
    exact absurd (List.cons.inj heq).1 (by decide)
  · cases whole with
    | nil => exact absurd rfl hne
    | cons c whole =>
      intro heq
      have hdigit := hall c List.mem_cons_self
      rw [(List.cons.inj heq).1] at hdigit
      exact absurd hdigit (by decide)

/-- **What is spelled is read**, whatever follows it that does not go on with the numeral: the
reader takes part after part, as `Spelled` has them. -/
theorem read?_text {spelled : Spelled} (h : spelled.WellFormed) {rest : List Char}
    (hrest : Stops continues rest) :
    read? (spelled.text ++ rest) = some (spelled.numeral, rest) := by
  have hbehind : Stops isDigit (Spelled.fractionText spelled.fraction ++
      (Spelled.exponentText spelled.exponent ++ rest)) := stops_fractionText hrest
  have hwhole := takeWhole?_append h.whole hbehind
  have hfraction : takeFraction (Spelled.fractionText spelled.fraction ++
      (Spelled.exponentText spelled.exponent ++ rest)) =
        (spelled.fraction, Spelled.exponentText spelled.exponent ++ rest) :=
    takeFraction_append h.fraction hrest
  have hexponent := takeExponent_append h.exponent hrest
  have hsign : ∀ cs, spelled.whole ++ (Spelled.fractionText spelled.fraction ++
      (Spelled.exponentText spelled.exponent ++ rest)) ≠ '-' :: cs := append_ne_minus h.whole
  -- Each part stops where the next one starts; what remains is the sign.
  simp only [Spelled.text, List.append_assoc, read?, Spelled.signText]
  cases hnegative : spelled.negative with
  | true =>
    simp only [if_true, List.cons_append, List.nil_append, hwhole, hfraction, hexponent, bind,
      Option.bind, Spelled.numeral, hnegative]
    rfl
  | false =>
    simp only [Bool.false_eq_true, if_false, List.nil_append, hwhole, hfraction, hexponent, bind,
      Option.bind, Spelled.numeral, hnegative]
    rfl

end Numeral
end SpiceKit

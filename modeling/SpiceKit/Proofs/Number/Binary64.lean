import Mathlib.Data.List.DropRight
import Mathlib.Tactic.IntervalCases
import SpiceKit.Proofs.Number.Numeral
import SpiceKit.Proofs.Number.Rounding

/-!
# The written form of a number

The digits of a positive magnitude are those of a positive coefficient, without the zeros at its
end: there are some, and the first is no zero. Laid out around the point they spell a numeral, with
a fraction or an exponent in every layout (`Binary64.exists_spelled_write`). So **a finite number is
always written as a real numeral and never as an integer**.

Every layout says the same decimal number, but for zeros behind it, which rounds to the magnitude it
was chosen for. So **what is written is read as itself** (`Binary64.ofText?_toText_self`), and
`reread`, the number that is read where a number was written, is that number.
-/

set_option autoImplicit false

namespace SpiceKit
namespace Binary64

open Numeral (IsDigits IsWhole Spelled)

/-! ## Decimal digits -/

theorem isDigit_of_mem_toDigits {n : Nat} {c : Char} (h : c ∈ Nat.toDigits 10 n) :
    Numeral.isDigit c = true := by
  have hdigit := Nat.isDigit_of_mem_toDigits (by decide) (by decide) h
  simp only [Char.isDigit, Bool.and_eq_true, decide_eq_true_eq] at hdigit
  simp only [Numeral.isDigit, Bool.and_eq_true, decide_eq_true_eq]
  exact hdigit

theorem isDigits_toDigits (n : Nat) : IsDigits (Nat.toDigits 10 n) :=
  ⟨Nat.toDigits_ne_nil, fun _ => isDigit_of_mem_toDigits⟩

theorem head?_toDigits {n : Nat} (h : 0 < n) : (Nat.toDigits 10 n).head? ≠ some '0' := by
  induction n using Nat.strong_induction_on with
  | _ n ih =>
    by_cases hsmall : n < 10
    · rw [Nat.toDigits_of_lt_base hsmall]
      clear ih
      interval_cases n <;> decide
    · rw [Nat.toDigits_of_base_le (by decide) (by omega), List.head?_append,
        List.head?_eq_some_head Nat.toDigits_ne_nil, Option.some_or,
        ← List.head?_eq_some_head Nat.toDigits_ne_nil]
      exact ih (n / 10) (by omega) (by omega)

/-! ## The digits of a magnitude -/

theorem pos_of_readsBack {rank coefficient : Nat} {exponent : Int} (hrank : 0 < rank)
    (h : readsBack rank coefficient exponent = true) : 0 < coefficient := by
  rcases Nat.eq_zero_or_pos coefficient with rfl | hpos
  · rw [readsBack, decimalRank_zero, beq_iff_eq] at h
    omega
  · exact hpos

theorem le_roundDiv (n d : Nat) : n / d ≤ Number.roundDiv n d := by
  unfold Number.roundDiv
  split
  · exact Nat.le_refl _
  · split
    · exact Nat.le_succ _
    · split
      · exact Nat.le_refl _
      · exact Nat.le_succ _

theorem pos_of_neighbour? {low high : Bool} {below nearest coefficient : Nat}
    (hlow : low = true → 0 < below) (hnearest : below ≤ nearest)
    (h : neighbour? low high below nearest = some coefficient) : 0 < coefficient := by
  cases low with
  | true =>
    cases high with
    | true =>
      rw [← Option.some.inj h]
      exact Nat.lt_of_lt_of_le (hlow rfl) hnearest
    | false =>
      rw [← Option.some.inj h]
      exact hlow rfl
  | false =>
    cases high with
    | true =>
      rw [← Option.some.inj h]
      exact Nat.succ_pos below
    | false => cases h

theorem pos_of_onGrid? {rank count : Nat} {point : Int} (hrank : 0 < rank) {decimal : Nat × Int}
    (h : onGrid? rank point count = some decimal) : 0 < decimal.1 := by
  obtain ⟨coefficient, hchosen, rfl⟩ := Option.map_eq_some_iff.mp h
  exact pos_of_neighbour? (pos_of_readsBack hrank) (le_roundDiv _ _) hchosen

theorem mul_pow_pos {n base : Nat} (hn : 0 < n) (hbase : 0 < base) (exponent : Nat) :
    0 < n * Nat.pow base exponent :=
  Nat.mul_pos hn (Nat.pow_pos hbase)

theorem units_pos {rank : Nat} (h : 0 < rank) : 0 < units rank := by
  unfold units
  split
  · exact h
  · exact mul_pow_pos (Nat.add_pos_left (Nat.two_pow_pos 52) _) Nat.two_pos _

theorem pos_getD {found : Option (Nat × Int)} {coefficient : Nat} {exponent : Int}
    (hfound : ∀ decimal, found = some decimal → 0 < decimal.1) (h : 0 < coefficient) :
    0 < (found.getD (coefficient, exponent)).1 := by
  cases found with
  | none => exact h
  | some decimal => exact hfound decimal rfl

theorem shortestDecimal_pos {rank : Nat} (h : 0 < rank) : 0 < (shortestDecimal rank).1 := by
  have hexact := mul_pow_pos (units_pos h) (by decide : 0 < 5)
  unfold shortestDecimal
  refine pos_getD (fun decimal hfound => ?_) ?_
  · obtain ⟨count, -, hgrid⟩ := List.exists_of_findSome?_eq_some hfound
    exact pos_of_onGrid? h hgrid
  · exact hexact 1074

theorem digits_shortest (rank : Nat) : (shortest rank).digits =
    (Nat.toDigits 10 (shortestDecimal rank).1).rdropWhile (· == '0') := by
  unfold shortest
  generalize shortestDecimal rank = decimal
  rfl

/-- The digits of a positive magnitude: some digits, of which the first is no zero. `IsDigits` and
the first digit are what a layout needs to be a numeral. -/
theorem shortest_digits {rank : Nat} (h : 0 < rank) :
    IsDigits (shortest rank).digits ∧ (shortest rank).digits.head? ≠ some '0' := by
  have hpos := shortestDecimal_pos h
  rw [digits_shortest]
  generalize (shortestDecimal rank).1 = n at hpos
  have hhead := head?_toDigits hpos
  have hstart := List.rdropWhile_prefix (· == '0') (l := Nat.toDigits 10 n)
  have hne : (Nat.toDigits 10 n).rdropWhile (· == '0') ≠ [] := by
    intro hnil
    have hzeros := List.rdropWhile_eq_nil_iff.mp hnil
    rw [List.head?_eq_some_head Nat.toDigits_ne_nil] at hhead
    exact hhead (congrArg some (eq_of_beq (hzeros _ (List.head_mem Nat.toDigits_ne_nil))))
  refine ⟨⟨hne, fun c hc => isDigit_of_mem_toDigits (hstart.subset hc)⟩, ?_⟩
  obtain ⟨zeros, hzeros⟩ := hstart
  rw [← hzeros, List.head?_append, List.head?_eq_some_head hne, Option.some_or] at hhead
  rw [List.head?_eq_some_head hne]
  exact hhead

/-! ## Layouts -/

theorem isDigits_append_zeros {digits : List Char} (h : IsDigits digits) (count : Nat) :
    IsDigits (digits ++ List.replicate count '0') := by
  refine ⟨by simp [h.1], fun c hc => ?_⟩
  rcases List.mem_append.mp hc with hmem | hmem
  · exact h.2 c hmem
  · rw [List.eq_of_mem_replicate hmem]
    decide

theorem isDigits_zeros_append {digits : List Char} (h : IsDigits digits) (count : Nat) :
    IsDigits (List.replicate count '0' ++ digits) := by
  refine ⟨by simp [h.1], fun c hc => ?_⟩
  rcases List.mem_append.mp hc with hmem | hmem
  · rw [List.eq_of_mem_replicate hmem]
    decide
  · exact h.2 c hmem

/-- An exponent is written so that its digits and its sign give it back. It is stated for the parts
of a `Spelled` numeral, which the layouts with an exponent then have. -/
theorem exists_writeExponent (exponent : Int) :
    ∃ part : Bool × List Char, IsDigits part.2 ∧
      'e' :: writeExponent exponent = Spelled.exponentText (some part) ∧
      (if part.1 then -(Numeral.digitsValue part.2 : Int) else Numeral.digitsValue part.2) =
        exponent := by
  refine ⟨(decide (exponent < 0), if (Nat.toDigits 10 exponent.natAbs).length < 2 then
    '0' :: Nat.toDigits 10 exponent.natAbs else Nat.toDigits 10 exponent.natAbs), ?_, ?_, ?_⟩
  · have hdigits := isDigits_toDigits exponent.natAbs
    split
    · exact isDigits_zeros_append hdigits 1
    · exact hdigits
  · simp only [writeExponent, Spelled.exponentText, decide_eq_true_eq]
  · have hvalue : Numeral.digitsValue (if (Nat.toDigits 10 exponent.natAbs).length < 2 then
        '0' :: Nat.toDigits 10 exponent.natAbs else Nat.toDigits 10 exponent.natAbs) =
          exponent.natAbs := by
      split
      · exact (Numeral.digitsValue_zeros_append _ 1).trans (Numeral.digitsValue_toDigits _)
      · exact Numeral.digitsValue_toDigits _
    simp only [hvalue, decide_eq_true_eq]
    split <;> omega

/-- A numeral says what digits and a place of the point say, with so many zeros behind them.
Numerals of different layouts can say the same, and `ofNumeral_of_saidBy` reads all of them alike. -/
def Shortest.SaidBy (number : Shortest) (numeral : Numeral) : Prop :=
  ∃ zeros : Nat, numeral.coefficient = Numeral.digitsValue number.digits * 10 ^ zeros ∧
    numeral.scale = number.point - number.digits.length - zeros

theorem Shortest.saidBy_of_digits {number : Shortest} {numeral : Numeral}
    (hdigits : numeral.whole ++ numeral.fraction.getD [] = number.digits)
    (hscale : numeral.scale = number.point - number.digits.length) : number.SaidBy numeral := by
  refine ⟨0, ?_, by simpa using hscale⟩
  rw [Numeral.coefficient, hdigits, Nat.pow_zero, Nat.mul_one]

/-- A text spells a numeral with a fraction or an exponent that says digits and a place of the point
(`Shortest.SaidBy`). The fraction or the exponent is what makes it a real and no integer. -/
def Shortest.SpelledAs (number : Shortest) (text : List Char) : Prop :=
  ∃ spelled : Spelled, spelled.WellFormed ∧ spelled.negative = false ∧
    spelled.text = text ∧ spelled.numeral.isInteger = false ∧ number.SaidBy spelled.numeral

section

variable {digits : List Char} {point : Int}

theorem spelledAs_zeros_before (hdigits : IsDigits digits) (hpoint : point ≤ 0) :
    (⟨digits, point⟩ : Shortest).SpelledAs
      ('0' :: '.' :: (List.replicate (-point).toNat '0' ++ digits)) := by
  refine ⟨⟨false, ['0'], some (List.replicate (-point).toNat '0' ++ digits), none⟩,
    ⟨Or.inl rfl, ?_, nofun⟩, rfl, ?_, rfl, 0, ?_, ?_⟩
  · rintro _ ⟨⟩
    exact isDigits_zeros_append hdigits _
  · simp [Spelled.text, Spelled.signText, Spelled.fractionText, Spelled.exponentText]
  · have hvalue := Numeral.digitsValue_zeros_append digits ((-point).toNat + 1)
    rw [Nat.pow_zero, Nat.mul_one, ← hvalue]
    rfl
  · simp only [Spelled.numeral, Numeral.scale, Option.map_none, Option.getD_none,
      Option.getD_some, List.length_append, List.length_replicate]
    omega

theorem spelledAs_zeros_behind (hdigits : IsDigits digits) (hhead : digits.head? ≠ some '0')
    (hpoint : 0 < point) (hlength : digits.length ≤ point.toNat) :
    (⟨digits, point⟩ : Shortest).SpelledAs
      (digits ++ List.replicate (point.toNat - digits.length) '0' ++ ['.', '0']) := by
  refine ⟨⟨false, digits ++ List.replicate (point.toNat - digits.length) '0', some ['0'], none⟩,
    ⟨Or.inr ⟨isDigits_append_zeros hdigits _, ?_⟩, ?_, nofun⟩, rfl, ?_, rfl,
    point.toNat - digits.length + 1, ?_, ?_⟩
  · rwa [List.head?_append, List.head?_eq_some_head hdigits.1, Option.some_or,
      ← List.head?_eq_some_head hdigits.1]
  · rintro _ ⟨⟩
    exact Numeral.isDigits_zero
  · simp [Spelled.text, Spelled.signText, Spelled.fractionText, Spelled.exponentText]
  · rw [← Numeral.digitsValue_append_zeros, List.replicate_succ', ← List.append_assoc]
    rfl
  · simp only [Spelled.numeral, Numeral.scale, Option.map_none, Option.getD_none,
      Option.getD_some, List.length_singleton]
    omega

theorem spelledAs_point_inside (hdigits : IsDigits digits) (hhead : digits.head? ≠ some '0')
    (hpoint : 0 < point) (hlength : point.toNat < digits.length) :
    (⟨digits, point⟩ : Shortest).SpelledAs
      (digits.take point.toNat ++ '.' :: digits.drop point.toNat) := by
  have hwhole : digits.take point.toNat ≠ [] := by
    simp only [ne_eq, List.take_eq_nil_iff, not_or]
    exact ⟨by omega, hdigits.1⟩
  have hfraction : digits.drop point.toNat ≠ [] := by
    simp only [ne_eq, List.drop_eq_nil_iff]
    omega
  refine ⟨⟨false, digits.take point.toNat, some (digits.drop point.toNat), none⟩,
    ⟨Or.inr ⟨⟨hwhole, fun c hc => hdigits.2 c (List.mem_of_mem_take hc)⟩, ?_⟩, ?_, nofun⟩, rfl, ?_,
    rfl, Shortest.saidBy_of_digits (List.take_append_drop _ _) ?_⟩
  · rw [List.head?_take, if_neg (by omega)]
    exact hhead
  · rintro _ ⟨⟩
    exact ⟨hfraction, fun c hc => hdigits.2 c (List.mem_of_mem_drop hc)⟩
  · simp [Spelled.text, Spelled.signText, Spelled.fractionText, Spelled.exponentText]
  · simp only [Spelled.numeral, Numeral.scale, Option.map_none, Option.getD_none,
      Option.getD_some, List.length_drop]
    omega

theorem spelledAs_exponent {digit : Char} {digits : List Char} (hdigits : IsDigits (digit :: digits))
    (hhead : digit ≠ '0') :
    (⟨digit :: digits, point⟩ : Shortest).SpelledAs
      (digit :: (Spelled.fractionText (if digits = [] then none else some digits) ++
        'e' :: writeExponent (point - 1))) := by
  obtain ⟨part, hpart, htext, hvalue⟩ := exists_writeExponent (point - 1)
  have hwhole : IsWhole [digit] :=
    Or.inr ⟨⟨nofun, List.forall_mem_singleton.mpr (hdigits.2 digit List.mem_cons_self)⟩,
      fun heq => hhead (Option.some.inj heq)⟩
  refine ⟨⟨false, [digit], if digits = [] then none else some digits, some part⟩,
    ⟨hwhole, ?_, ?_⟩, rfl, ?_, ?_, Shortest.saidBy_of_digits ?_ ?_⟩
  · intro fraction hfraction
    split at hfraction
    · cases hfraction
    · rename_i hne
      obtain rfl := Option.some.inj hfraction
      exact ⟨hne, fun c hc => hdigits.2 c (List.mem_cons_of_mem _ hc)⟩
  · rintro _ ⟨⟩
    exact hpart
  · simp [Spelled.text, Spelled.signText, htext]
  · simp [Spelled.numeral, Numeral.isInteger]
  · by_cases hnil : digits = []
    · simp [Spelled.numeral, hnil]
    · simp [Spelled.numeral, hnil]
  · by_cases hnil : digits = []
    · simp [Spelled.numeral, Numeral.scale, hvalue, hnil]
    · simp only [Spelled.numeral, Numeral.scale, Option.map_some, Option.getD_some, hvalue,
        if_neg hnil, List.length_cons]
      omega

end

/-- **Every layout of digits spells a numeral** that says them, with a fraction or an exponent. One
lemma for each of the four layouts, and `Shortest.layout` chooses among them. -/
theorem spelledAs_layout {number : Shortest} (hdigits : IsDigits number.digits)
    (hhead : number.digits.head? ≠ some '0') : number.SpelledAs number.layout := by
  obtain ⟨digits, point⟩ := number
  simp only at hdigits hhead
  unfold Shortest.layout
  simp only
  split
  · split
    · exact spelledAs_zeros_before hdigits ‹_›
    · split
      · exact spelledAs_zeros_behind hdigits hhead (by omega) ‹_›
      · exact spelledAs_point_inside hdigits hhead (by omega) (by omega)
  · cases digits with
    | nil => exact absurd rfl hdigits.1
    | cons digit digits =>
      have hspelled : (⟨digit :: digits, point⟩ : Shortest).SpelledAs _ :=
        spelledAs_exponent hdigits fun heq => hhead (heq ▸ rfl)
      cases digits with
      | nil => exact hspelled
      | cons next digits => exact hspelled

theorem exists_rdropWhile_append_zeros (digits : List Char) :
    ∃ zeros, digits.rdropWhile (· == '0') ++ List.replicate zeros '0' = digits := by
  have hzeros : digits.rtakeWhile (· == '0') =
      List.replicate (digits.rtakeWhile (· == '0')).length '0' :=
    List.eq_replicate_of_mem fun c hc => by simpa using List.mem_rtakeWhile_imp hc
  refine ⟨(digits.rtakeWhile (· == '0')).length, ?_⟩
  rw [← hzeros, List.rdropWhile, List.rtakeWhile, ← List.reverse_append,
    List.takeWhile_append_dropWhile, List.reverse_reverse]

/-- The shortest digits of a magnitude are those of the decimal number chosen for it, but for zeros.
Zeros at the end make no difference to what is read (`decimalRank_zeros`). -/
theorem exists_zeros_shortest (rank : Nat) :
    ∃ zeros : Nat, (shortestDecimal rank).1 =
        Numeral.digitsValue (shortest rank).digits * 10 ^ zeros ∧
      (shortestDecimal rank).2 = (shortest rank).point - (shortest rank).digits.length - zeros := by
  obtain ⟨zeros, hzeros⟩ : ∃ zeros, (shortest rank).digits ++ List.replicate zeros '0' =
      Nat.toDigits 10 (shortestDecimal rank).1 := by
    rw [digits_shortest]
    exact exists_rdropWhile_append_zeros _
  have hpoint : (shortest rank).point =
      (Nat.toDigits 10 (shortestDecimal rank).1).length + (shortestDecimal rank).2 := by
    unfold shortest
    generalize shortestDecimal rank = decimal
    rfl
  refine ⟨zeros, ?_, ?_⟩
  · rw [← Numeral.digitsValue_append_zeros, hzeros, Numeral.digitsValue_toDigits]
  · rw [hpoint, ← hzeros, List.length_append, List.length_replicate]
    omega

/-- **What is said of a magnitude by its shortest digits is read as that magnitude.** The digits may
have lost zeros, which `decimalRank_zeros` makes good. -/
theorem ofNumeral_of_saidBy {rank : Nat} {numeral : Numeral} (hpos : 0 < rank)
    (hlt : rank < 2047 * Nat.pow 2 52) (h : (shortest rank).SaidBy numeral) :
    ofNumeral numeral = ofRank numeral.negative rank := by
  obtain ⟨zeros, hcoefficient, hscale⟩ := h
  obtain ⟨zeros', hcoefficient', hscale'⟩ := exists_zeros_shortest rank
  have hrank := decimalRank_shortestDecimal rank
  rw [hcoefficient', hscale', decimalRank_zeros] at hrank
  refine ofDecimal_of_decimalRank hpos hlt ?_ numeral.negative
  rw [hcoefficient, hscale, decimalRank_zeros, hrank]

theorem exists_spelled_magnitude (negative : Bool) {rank : Nat} (hlt : rank < 2047 * Nat.pow 2 52) :
    ∃ magnitude : Spelled, magnitude.WellFormed ∧ magnitude.negative = false ∧
      magnitude.numeral.isInteger = false ∧ (magnitude.text =
        if rank = 0 then ['0', '.', '0'] else (shortest rank).layout) ∧
      ofNumeral { magnitude.numeral with negative := negative } = ofRank negative rank := by
  by_cases hzero : rank = 0
  · refine ⟨⟨false, ['0'], some ['0'], none⟩, ⟨Or.inl rfl, ?_, by simp⟩, rfl, rfl, ?_, ?_⟩
    · rintro _ ⟨⟩
      exact Numeral.isDigits_zero
    · rw [if_pos hzero]
      rfl
    · rw [hzero]
      rfl
  · have hpos := Nat.pos_of_ne_zero hzero
    obtain ⟨hdigits, hhead⟩ := shortest_digits hpos
    obtain ⟨spelled, hformed, hpositive, htext, hinteger, hsaid⟩ := spelledAs_layout hdigits hhead
    exact ⟨spelled, hformed, hpositive, hinteger, by rw [if_neg hzero, htext],
      ofNumeral_of_saidBy hpos hlt hsaid⟩

/-- **A finite number is written as a real numeral**, which is read as that number. The sign is put
before what `exists_spelled_magnitude` says of the magnitude. -/
theorem exists_spelled_write (negative : Bool) (rank : Fin (2047 * Nat.pow 2 52)) :
    ∃ spelled : Spelled, spelled.WellFormed ∧ spelled.numeral.isInteger = false ∧
      (∀ spelling, (finite negative rank).write spelling = spelled.text) ∧
      ofNumeral spelled.numeral = finite negative rank := by
  obtain ⟨magnitude, hmagnitude, hpositive, hinteger, hwrite, hread⟩ :=
    exists_spelled_magnitude negative rank.isLt
  -- The sign is written in front of all that and changes nothing about it.
  refine ⟨{ magnitude with negative := negative }, ⟨hmagnitude.whole, hmagnitude.fraction,
    hmagnitude.exponent⟩, hinteger, fun spelling => ?_, hread.trans (dif_pos rank.isLt)⟩
  obtain ⟨sign, whole, fraction, exponent⟩ := magnitude
  obtain rfl : sign = false := hpositive
  simp only [write, ← hwrite]
  cases negative with
  | false => rfl
  | true => rfl

/-! ## Read again -/

def reread (x : Binary64) : Binary64 := (ofText? x.toText).getD x

/-- A finite number is written as a numeral, and is read again as the number of that numeral, which
is the number itself. Both `readAs_real` for settings files and `ofText?_toText_self` for messages
are drawn from this. -/
theorem exists_spelled_reread (negative : Bool) (rank : Fin (2047 * Nat.pow 2 52)) :
    ∃ spelled : Spelled, spelled.WellFormed ∧ spelled.numeral.isInteger = false ∧
      (∀ spelling, (finite negative rank).write spelling = spelled.text) ∧
        ofText? (finite negative rank).toText = some (ofNumeral spelled.numeral) ∧
        ofNumeral spelled.numeral = finite negative rank := by
  obtain ⟨spelled, hformed, hinteger, hwrite, hself⟩ := exists_spelled_write negative rank
  refine ⟨spelled, hformed, hinteger, hwrite, ?_, hself⟩
  have hread : Numeral.read? spelled.text = some (spelled.numeral, []) := by
    rw [← List.append_nil spelled.text]
    exact Numeral.read?_text hformed (Text.stops_nil _)
  have hword : ∀ word : String, Numeral.read? word.toList = none →
      String.ofList spelled.text ≠ word := by
    rintro word hnone rfl
    rw [String.toList_ofList, hread] at hnone
    cases hnone
  rw [toText, hwrite, ofText?, if_neg (hword "nan" (by decide)), if_neg (hword "inf" (by decide)),
    if_neg (hword "-inf" (by decide)), String.toList_ofList, hread]

/-- **What is written is read as itself.** With `reread_eq` it clears the way for settings to come
back just as they were. -/
theorem ofText?_toText_self (x : Binary64) : ofText? x.toText = some x := by
  cases x with
  | nan => decide
  | infinite negative => cases negative <;> decide
  | finite negative rank =>
    obtain ⟨spelled, -, -, -, hreread, hself⟩ := exists_spelled_reread negative rank
    rw [hreread, hself]

theorem reread_eq (x : Binary64) : x.reread = x := by
  rw [reread, ofText?_toText_self, Option.getD_some]

theorem ofText?_toText (x : Binary64) : ofText? x.toText = some x.reread := by
  rw [ofText?_toText_self, reread_eq]

end Binary64
end SpiceKit

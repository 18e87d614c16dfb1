import Mathlib.Tactic.Ring
import Mathlib.Tactic.SplitIfs
import SpiceKit.Number.Binary64

/-!
# Decimal numbers and the magnitudes they round to

Rounding looks at a quotient and not at how it is written, so that zeros behind a decimal number
leave its rank as it is (`Binary64.decimalRank_zeros`). The decimal number that is chosen for a
magnitude **rounds to that magnitude** (`Binary64.decimalRank_shortestDecimal`), and a decimal
number that rounds to a positive one is **read as it** (`Binary64.ofDecimal_of_decimalRank`): it is
neither so great nor so small that its order alone decides.

The powers here are far too great to be computed. Where one would be, its exponent is a variable
that is known to be the number.
-/

set_option autoImplicit false

namespace SpiceKit

namespace Number

theorem roundDiv_mul_left {k : Nat} (hk : 0 < k) (n d : Nat) :
    roundDiv (k * n) (k * d) = roundDiv n d := by
  have hlow : 2 * (k * (n % d)) < k * d ↔ 2 * (n % d) < d := by
    rw [Nat.mul_left_comm, Nat.mul_lt_mul_left hk]
  have hhigh : k * d < 2 * (k * (n % d)) ↔ d < 2 * (n % d) := by
    rw [Nat.mul_left_comm, Nat.mul_lt_mul_left hk]
  simp only [roundDiv, Nat.mul_mod_mul_left, Nat.mul_div_mul_left _ _ hk, hlow, hhigh]

theorem roundDiv_eq_or (n d : Nat) : roundDiv n d = n / d ∨ roundDiv n d = n / d + 1 := by
  unfold roundDiv
  split_ifs
  · exact Or.inl rfl
  · exact Or.inr rfl
  · exact Or.inl rfl
  · exact Or.inr rfl

end Number

namespace Binary64

theorem nearestRank_mul_left {k : Nat} (hk : 0 < k) (n d : Nat) :
    nearestRank (k * n) (k * d) = nearestRank n d := by
  simp only [nearestRank, Nat.mul_assoc, Nat.mul_div_mul_left _ _ hk, Number.roundDiv_mul_left hk]

theorem nearestRank_congr {n d n' d' : Nat} (hd : 0 < d) (hd' : 0 < d') (h : n * d' = n' * d) :
    nearestRank n d = nearestRank n' d' := by
  calc nearestRank n d = nearestRank (d' * n) (d' * d) := (nearestRank_mul_left hd' n d).symm
    _ = nearestRank (d * n') (d * d') := by
      rw [Nat.mul_comm d' n, h, Nat.mul_comm n' d, Nat.mul_comm d' d]
    _ = nearestRank n' d' := nearestRank_mul_left hd n' d'

theorem decimalRank_zero (exponent : Int) : decimalRank 0 exponent = 0 := by
  have hpos : 0 < Nat.pow 10 (-exponent).toNat * Nat.pow 2 0 :=
    Nat.mul_pos (Nat.pow_pos (by decide)) (by decide)
  simp only [decimalRank, nearestRank, Nat.zero_mul, Nat.zero_div, Nat.log2_zero, Nat.zero_sub,
    Number.roundDiv, Nat.zero_mod, Nat.mul_zero, if_pos hpos]

/-- Zeros behind a decimal number are made good by its exponent. Only the quotient matters
(`nearestRank_congr`). -/
theorem decimalRank_zeros (coefficient zeros : Nat) (exponent : Int) :
    decimalRank (coefficient * 10 ^ zeros) (exponent - zeros) = decimalRank coefficient exponent := by
  refine nearestRank_congr (Nat.pow_pos (by decide)) (Nat.pow_pos (by decide)) ?_
  have hpow : 10 ^ zeros * Nat.pow 10 (exponent - zeros).toNat * Nat.pow 10 (-exponent).toNat =
      Nat.pow 10 exponent.toNat * Nat.pow 10 (-(exponent - zeros)).toNat := by
    show 10 ^ zeros * 10 ^ _ * 10 ^ _ = 10 ^ _ * 10 ^ _
    rw [← Nat.pow_add, ← Nat.pow_add, ← Nat.pow_add]
    congr 1
    omega
  rw [Nat.mul_assoc, Nat.mul_assoc, ← Nat.mul_assoc (10 ^ zeros), hpow, Nat.mul_assoc]

theorem pow_two_pos (exponent : Nat) : 0 < Nat.pow 2 exponent := Nat.two_pow_pos exponent

theorem nearestRank_whole {scale : Nat} (hscale : scale = 1074) (n : Nat) :
    nearestRank n (Nat.pow 2 scale) =
      (n.log2 - 52) * Nat.pow 2 52 + Number.roundDiv n (Nat.pow 2 (n.log2 - 52)) := by
  have hpos := pow_two_pos scale
  unfold nearestRank
  rw [← hscale]
  simp only [Nat.mul_comm n, Nat.mul_div_cancel_left _ hpos, Number.roundDiv_mul_left hpos]

theorem log2_normal {fraction : Nat} (h : fraction < Nat.pow 2 52) (shift : Nat) :
    ((Nat.pow 2 52 + fraction) * Nat.pow 2 shift).log2 = 52 + shift := by
  have hpos : 0 < Nat.pow 2 shift := pow_two_pos shift
  have hhalf : 0 < Nat.pow 2 52 := pow_two_pos 52
  rw [Nat.log2_eq_iff (Nat.mul_ne_zero (by omega) (by omega))]
  constructor
  · rw [Nat.pow_add]
    exact Nat.mul_le_mul_right _ (Nat.le_add_right _ _)
  · calc (Nat.pow 2 52 + fraction) * Nat.pow 2 shift
        < (Nat.pow 2 52 + Nat.pow 2 52) * Nat.pow 2 shift :=
          Nat.mul_lt_mul_of_pos_right (Nat.add_lt_add_left h _) hpos
      _ = 2 ^ (52 + shift + 1) := by
          rw [Nat.add_right_comm, Nat.pow_add]
          rfl

theorem nearestRank_units {scale : Nat} (hscale : scale = 1074) (rank : Nat) :
    nearestRank (units rank) (Nat.pow 2 scale) = rank := by
  rw [nearestRank_whole hscale]
  unfold units
  split
  · rename_i hsmall
    have hlog : rank.log2 - 52 = 0 := by
      rcases Nat.eq_zero_or_pos rank with rfl | hpos
      · rfl
      · have hlt := (Nat.log2_lt (Nat.pos_iff_ne_zero.mp hpos)).mpr hsmall
        omega
    rw [hlog, Nat.zero_mul, Nat.zero_add]
    simpa using Number.roundDiv_mul_right rank Nat.one_pos
  · rename_i hlarge
    have hhalf : 0 < Nat.pow 2 52 := pow_two_pos 52
    -- A rank that is not small is its exponent and its fraction side by side.
    have hq : 1 ≤ rank / Nat.pow 2 52 :=
      (Nat.one_le_div_iff hhalf).mpr (Nat.not_lt.mp hlarge)
    have hdiv := Nat.div_add_mod rank (Nat.pow 2 52)
    rw [log2_normal (Nat.mod_lt _ hhalf), Nat.add_sub_cancel_left,
      Number.roundDiv_mul_right _ (pow_two_pos _)]
    generalize Nat.pow 2 52 = half at *
    obtain ⟨q, hq⟩ := Nat.exists_eq_add_of_le hq
    rw [hq] at hdiv ⊢
    rw [Nat.add_sub_cancel_left]
    calc q * half + (half + rank % half) = half * (1 + q) + rank % half := by
          rw [Nat.mul_add, Nat.mul_one, Nat.mul_comm half q]
          omega
      _ = rank := hdiv

/-- The exact expansion of a magnitude rounds to it. It is `nearestRank_units` with the fraction
written in tens. -/
theorem decimalRank_exact {scale rank : Nat} {decimal : Nat × Int} (hscale : scale = 1074)
    (hdecimal : decimal = (units rank * Nat.pow 5 scale, -(scale : Int))) :
    decimalRank decimal.1 decimal.2 = rank := by
  subst hdecimal
  refine Eq.trans ?_ (nearestRank_units hscale rank)
  refine nearestRank_congr (Nat.pow_pos (by decide)) (pow_two_pos scale) ?_
  rw [Int.toNat_neg_natCast, Int.neg_neg, Int.toNat_natCast, Nat.mul_assoc, Nat.mul_assoc]
  congr 1
  show 5 ^ scale * (1 * 2 ^ scale) = 10 ^ scale
  rw [Nat.one_mul, ← Nat.mul_pow]

theorem readsBack_of_neighbour? {rank below nearest coefficient : Nat} {exponent : Int}
    (hnearest : nearest = below ∨ nearest = below + 1)
    (h : neighbour? (readsBack rank below exponent) (readsBack rank (below + 1) exponent) below
      nearest = some coefficient) : readsBack rank coefficient exponent = true := by
  cases hlow : readsBack rank below exponent with
  | true =>
    cases hhigh : readsBack rank (below + 1) exponent with
    | true =>
      rw [hlow, hhigh] at h
      obtain rfl := Option.some.inj h
      rcases hnearest with rfl | rfl
      · exact hlow
      · exact hhigh
    | false =>
      rw [hlow, hhigh] at h
      obtain rfl := Option.some.inj h
      exact hlow
  | false =>
    cases hhigh : readsBack rank (below + 1) exponent with
    | true =>
      rw [hlow, hhigh] at h
      obtain rfl := Option.some.inj h
      exact hhigh
    | false =>
      rw [hlow, hhigh] at h
      cases h

theorem readsBack_of_onGrid? {rank count : Nat} {point : Int} {decimal : Nat × Int}
    (h : onGrid? rank point count = some decimal) :
    readsBack rank decimal.1 decimal.2 = true := by
  obtain ⟨coefficient, hchosen, rfl⟩ := Option.map_eq_some_iff.mp h
  exact readsBack_of_neighbour? (Number.roundDiv_eq_or _ _) hchosen

theorem decimalRank_getD {rank : Nat} {found : Option (Nat × Int)} {fallback : Nat × Int}
    (hfound : ∀ decimal, found = some decimal → readsBack rank decimal.1 decimal.2 = true)
    (hfallback : decimalRank fallback.1 fallback.2 = rank) :
    decimalRank (found.getD fallback).1 (found.getD fallback).2 = rank := by
  cases found with
  | none => exact hfallback
  | some decimal => exact eq_of_beq (hfound decimal rfl)

/-- **The decimal number that is chosen for a magnitude rounds to it.** Where one with fewer digits
does not, the choice falls back on the exact expansion (`decimalRank_exact`). -/
theorem decimalRank_shortestDecimal (rank : Nat) :
    decimalRank (shortestDecimal rank).1 (shortestDecimal rank).2 = rank := by
  refine decimalRank_getD (fun decimal h => ?_) (@decimalRank_exact 1074 rank _ rfl rfl)
  obtain ⟨count, -, hgrid⟩ := List.exists_of_findSome?_eq_some h
  exact readsBack_of_onGrid? hgrid

/-! ## Numbers of moderate size -/

theorem digitCount_pos (n : Nat) : 0 < digitCount n := Nat.length_toDigits_pos

theorem lt_pow_digitCount (n : Nat) : n < 10 ^ digitCount n :=
  (Nat.length_toDigits_le_iff (by decide) (digitCount_pos n)).mp (Nat.le_refl _)

theorem pow_digitCount_le {n : Nat} (h : 0 < n) : 10 ^ (digitCount n - 1) ≤ n := by
  rcases Nat.eq_zero_or_pos (digitCount n - 1) with hone | hmore
  · rw [hone]
    exact h
  · refine Nat.not_lt.mp fun hlt => ?_
    have hle := (Nat.length_toDigits_le_iff (by decide) hmore).mpr hlt
    have hpos := digitCount_pos n
    unfold digitCount at *
    omega

theorem two_pow_le_ten_pow {exponent limit : Nat} (h : exponent ≤ 3 * limit) :
    2 ^ exponent ≤ 10 ^ limit :=
  calc 2 ^ exponent ≤ 2 ^ (3 * limit) := Nat.pow_le_pow_right (by decide) h
    _ = (2 ^ 3) ^ limit := Nat.pow_mul 2 3 limit
    _ ≤ 10 ^ limit := Nat.pow_le_pow_left (by decide) limit

theorem nearestRank_eq_zero {scale n d : Nat} (hscale : scale = 1074)
    (h : 2 * (n * Nat.pow 2 scale) < d) : nearestRank n d = 0 := by
  have hlt : n * Nat.pow 2 scale < d := by omega
  unfold nearestRank
  rw [← hscale]
  simp only [Nat.div_eq_of_lt hlt, Nat.log2_zero, Nat.zero_sub, Nat.zero_mul, Nat.zero_add,
    Number.roundDiv, show Nat.pow 2 0 = 1 from rfl, Nat.mul_one, Nat.mod_eq_of_lt hlt, if_pos h]

/-- What is at least so many powers of two has at least the rank of the last.
`le_decimalRank_of_lt_order` applies it to powers of ten. -/
theorem le_nearestRank {scale n d steps : Nat} (hscale : scale = 1074) (hd : 0 < d)
    (h : Nat.pow 2 (52 + steps) * d ≤ n * Nat.pow 2 scale) :
    steps * Nat.pow 2 52 ≤ nearestRank n d := by
  have hquotient : Nat.pow 2 (52 + steps) ≤ n * Nat.pow 2 scale / d :=
    (Nat.le_div_iff_mul_le hd).mpr h
  have hpos := pow_two_pos (52 + steps)
  have hlog : 52 + steps ≤ (n * Nat.pow 2 scale / d).log2 :=
    (Nat.le_log2 (by omega)).mpr hquotient
  unfold nearestRank
  rw [← hscale]
  exact Nat.le_add_right_of_le (Nat.mul_le_mul_right _ (by omega))

theorem decimalRank_of_order_lt {coefficient : Nat} {exponent : Int}
    (h : (digitCount coefficient : Int) + exponent < -400) : decimalRank coefficient exponent = 0 := by
  obtain ⟨scale, hscale⟩ : ∃ scale, scale = 1074 := ⟨_, rfl⟩
  obtain ⟨limit, hlimit⟩ : ∃ limit, limit = 400 := ⟨_, rfl⟩
  have hcount := digitCount_pos coefficient
  refine nearestRank_eq_zero hscale ?_
  calc 2 * (coefficient * Nat.pow 10 exponent.toNat * Nat.pow 2 scale)
      = coefficient * 2 ^ (scale + 1) := by
        rw [Int.toNat_of_nonpos (by omega), Nat.pow_succ]
        show 2 * (coefficient * 1 * 2 ^ scale) = _
        ring
    _ < 10 ^ digitCount coefficient * 10 ^ limit :=
        Nat.mul_lt_mul_of_lt_of_le (lt_pow_digitCount _) (two_pow_le_ten_pow (by omega))
          (Nat.pow_pos (by decide))
    _ = 10 ^ (digitCount coefficient + limit) := (Nat.pow_add ..).symm
    _ ≤ 10 ^ (-exponent).toNat := Nat.pow_le_pow_right (by decide) (by omega)

/-- A decimal number of a very high order rounds to no magnitude that is finite. So the short cut of
`ofDecimal` for great orders gives what rounding would. -/
theorem le_decimalRank_of_lt_order {coefficient : Nat} {exponent : Int} (hpos : 0 < coefficient)
    (h : 400 < (digitCount coefficient : Int) + exponent) :
    2047 * Nat.pow 2 52 ≤ decimalRank coefficient exponent := by
  -- The constants are given names, or else their powers would be computed.
  obtain ⟨scale, hscale⟩ : ∃ scale, scale = 1074 := ⟨_, rfl⟩
  obtain ⟨limit, hlimit⟩ : ∃ limit, limit = 400 := ⟨_, rfl⟩
  obtain ⟨steps, hsteps⟩ : ∃ steps, steps = 2047 := ⟨_, rfl⟩
  have hcount := digitCount_pos coefficient
  have hden : 0 < Nat.pow 10 (-exponent).toNat := Nat.pow_pos (by decide)
  rw [← hsteps]
  refine le_nearestRank hscale hden ?_
  calc 2 ^ (52 + steps) * 10 ^ (-exponent).toNat
      = 2 ^ 1025 * 10 ^ (-exponent).toNat * 2 ^ scale := by
        rw [Nat.mul_right_comm, ← Nat.pow_add, hsteps, hscale]
    _ ≤ 10 ^ limit * 10 ^ (-exponent).toNat * 2 ^ scale :=
        Nat.mul_le_mul_right _ (Nat.mul_le_mul_right _ (two_pow_le_ten_pow (by omega)))
    _ = 10 ^ (limit + (-exponent).toNat) * 2 ^ scale := by rw [Nat.pow_add]
    _ ≤ 10 ^ (digitCount coefficient - 1 + exponent.toNat) * 2 ^ scale :=
        Nat.mul_le_mul_right _ (Nat.pow_le_pow_right (by decide) (by omega))
    _ = 10 ^ (digitCount coefficient - 1) * 10 ^ exponent.toNat * 2 ^ scale := by
        rw [Nat.pow_add]
    _ ≤ coefficient * 10 ^ exponent.toNat * 2 ^ scale :=
        Nat.mul_le_mul_right _ (Nat.mul_le_mul_right _ (pow_digitCount_le hpos))

/-- **A decimal number that rounds to a positive magnitude is read as it**: its order is moderate.
Neither short cut of `ofDecimal` is then taken. -/
theorem ofDecimal_of_decimalRank {coefficient rank : Nat} {exponent : Int} (hpos : 0 < rank)
    (hlt : rank < 2047 * Nat.pow 2 52) (h : decimalRank coefficient exponent = rank)
    (negative : Bool) : ofDecimal negative coefficient exponent = ofRank negative rank := by
  have hcoefficient : 0 < coefficient := by
    rcases Nat.eq_zero_or_pos coefficient with rfl | hcoefficient
    · rw [decimalRank_zero] at h
      omega
    · exact hcoefficient
  have hlow : ¬ (digitCount coefficient : Int) + exponent < -400 := by
    intro horder
    have hzero := decimalRank_of_order_lt horder
    omega
  have hhigh : ¬ 400 < (digitCount coefficient : Int) + exponent := by
    intro horder
    have hle := le_decimalRank_of_lt_order hcoefficient horder
    omega
  unfold ofDecimal
  simp only
  rw [if_neg (not_or.mpr ⟨Nat.pos_iff_ne_zero.mp hcoefficient, hlow⟩), if_neg hhigh, h]

end Binary64
end SpiceKit

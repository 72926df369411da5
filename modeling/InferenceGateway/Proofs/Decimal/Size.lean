import Mathlib
import InferenceGateway.Decimal.Double

/-!
# How large doubles get

A quotient that is not too large rounds to a finite double: how large the double is at most can be
told from how large the quotient is.

* `biasedExponent_ofQuotient_le`: the exponent of a rounded quotient.
* `biasedExponent_div_le`: division by a double of at least one makes nothing much larger.
-/

namespace InferenceGateway.Double

/-! ## The exponent of a double -/

theorem biasedExponent_pack (negative : Bool) {biased fraction : Nat} (exponent : biased < 2048)
    (within : fraction < 2 ^ 52) : (pack negative biased fraction).biasedExponent = biased := by
  simp only [biasedExponent, pack, fractionBits, Nat.pow_eq, UInt64.toNat_ofNat']
  split <;> omega

theorem biasedExponent_neg (x : Double) : x.neg.biasedExponent = x.biasedExponent := by
  simp only [biasedExponent, neg, fractionBits, Nat.pow_eq, UInt64.toNat_ofNat']
  omega

theorem fraction_lt (x : Double) : x.fraction < 2 ^ 52 :=
  Nat.mod_lt _ (by decide)

theorem isInfinite_eq_false_of_lt {x : Double} (h : x.biasedExponent < 2047) :
    x.isInfinite = false :=
  beq_false_of_ne (Nat.ne_of_lt h)

theorem isInfinite_neg (x : Double) : x.neg.isInfinite = x.isInfinite := by
  unfold isInfinite
  rw [biasedExponent_neg]

/-- The biased exponent of a half, which is the greatest one below one. -/
def halfExponent : Nat := 1022

/-! ## Quotients -/

section

variable {num den : Nat}

/-- Scaling by a power of two multiplies the bound on the quotient. -/
theorem scaled_lt_iff (num : Nat) (positive : 0 < den) (bound : Nat) (e : Int) :
    0 < (scaled num den e).2 ∧ ((scaled num den e).1 < bound * (scaled num den e).2
      ↔ (num : ℚ) < bound * den * 2 ^ e) := by
  unfold scaled
  split
  · next down =>
    -- for a negative exponent the numerator is scaled, otherwise the denominator
    have flip : (2 : ℚ) ^ e * 2 ^ e.natAbs = 1 := by
      rw [← zpow_natCast, ← zpow_add₀ (by norm_num)]
      have zero : e + (e.natAbs : ℤ) = 0 := by omega
      rw [zero, zpow_zero]
    refine ⟨positive, ?_⟩
    rw [Nat.pow_eq, ← Nat.cast_lt (α := ℚ),
      ← mul_lt_mul_iff_left₀ (b := (num : ℚ)) (pow_pos two_pos e.natAbs), mul_assoc _ (2 ^ e), flip]
    push_cast
    rw [mul_one]
  · next up =>
    have same : (2 : ℚ) ^ e = 2 ^ e.natAbs := by
      rw [← zpow_natCast]
      congr 1
      omega
    refine ⟨Nat.mul_pos positive (Nat.pow_pos (by decide)), ?_⟩
    rw [Nat.pow_eq, ← Nat.cast_lt (α := ℚ), same]
    push_cast
    rw [mul_assoc]

/-- The first guess of an exponent, from the two bit lengths. -/
def guess (num den : Nat) : Int :=
  (Nat.log2 num : Int) - (Nat.log2 den : Int) - 53

theorem exponentOf_eq (num den : Nat) :
    exponentOf num den
      = max (if (scaled num den (guess num den)).1 / (scaled num den (guess num den)).2 < 2 ^ 53
          then guess num den else guess num den + 1) leastExponent :=
  rfl

theorem two_pow_log2_le (num_pos : 0 < num) : (2 : ℚ) ^ (Nat.log2 num : ℤ) ≤ num := by
  rw [zpow_natCast]
  exact_mod_cast Nat.log2_self_le (Nat.pos_iff_ne_zero.mp num_pos)

theorem lt_two_pow_log2 (num : Nat) : (num : ℚ) < 2 ^ ((Nat.log2 num : ℤ) + 1) := by
  have lt : num < 2 ^ (Nat.log2 num + 1) := Nat.lt_log2_self
  exact_mod_cast lt

/-- The exponent is chosen so that the significand has at most 53 bits. -/
theorem scaled_exponentOf_lt (num : Nat) (positive : 0 < den) :
    (scaled num den (exponentOf num den)).1 < 2 ^ 53 * (scaled num den (exponentOf num den)).2 := by
  obtain ⟨-, small⟩ := scaled_lt_iff num positive (2 ^ 53) (exponentOf num den)
  refine small.mpr ?_
  -- A larger exponent makes the significand only smaller.
  have larger {e e' : Int} (le : e ≤ e') (lt : (num : ℚ) < ↑(2 ^ 53 : Nat) * den * 2 ^ e) :
      (num : ℚ) < ↑(2 ^ 53 : Nat) * den * 2 ^ e' := by
    refine lt.trans_le (mul_le_mul_of_nonneg_left ?_ (by positivity))
    exact zpow_le_zpow_right₀ (by norm_num) le
  rw [exponentOf_eq]
  refine larger (le_max_left _ _) ?_
  split
  · next guessed =>
    obtain ⟨positive', small⟩ := scaled_lt_iff num positive (2 ^ 53) (guess num den)
    exact small.mp ((Nat.div_lt_iff_lt_mul positive').mp guessed)
  · have split : (Nat.log2 num : ℤ) + 1 = 53 + Nat.log2 den + (guess num den + 1) := by
      unfold guess
      omega
    calc (num : ℚ) < 2 ^ ((Nat.log2 num : ℤ) + 1) := lt_two_pow_log2 num
      _ = 2 ^ (53 : ℤ) * 2 ^ (Nat.log2 den : ℤ) * 2 ^ (guess num den + 1) := by
        rw [split, zpow_add₀ two_ne_zero, zpow_add₀ two_ne_zero]
      _ ≤ 2 ^ (53 : ℤ) * den * 2 ^ (guess num den + 1) := by
        have := two_pow_log2_le positive
        gcongr
      _ = ↑(2 ^ 53 : Nat) * den * 2 ^ (guess num den + 1) := by norm_num

/-- The exponent is as large as the quotient makes it. -/
theorem exponentOf_le {top : Nat} (num_pos : 0 < num)
    (small : num * 2 ^ halfExponent < den * 2 ^ top) : exponentOf num den ≤ top - 1074 := by
  -- The bit lengths bound the quotient from below, so it is enough to compare them.
  have logs : Nat.log2 num + halfExponent < Nat.log2 den + 1 + top := by
    refine (Nat.pow_lt_pow_iff_right (by decide : 1 < 2)).mp ?_
    calc 2 ^ (Nat.log2 num + halfExponent) = 2 ^ Nat.log2 num * 2 ^ halfExponent := pow_add _ _ _
      _ ≤ num * 2 ^ halfExponent :=
        Nat.mul_le_mul_right _ (Nat.log2_self_le (Nat.pos_iff_ne_zero.mp num_pos))
      _ < den * 2 ^ top := small
      _ ≤ 2 ^ (Nat.log2 den + 1) * 2 ^ top := Nat.mul_le_mul_right _ Nat.lt_log2_self.le
      _ = 2 ^ (Nat.log2 den + 1 + top) := (pow_add _ _ _).symm
  rw [exponentOf_eq]
  unfold guess leastExponent
  unfold halfExponent at logs
  split <;> omega

/-- Rounding stays within a bound that is a whole number. -/
theorem roundEven_le {bound : Nat} (positive : 0 < den) (small : num < bound * den) :
    roundEven num den ≤ bound := by
  have quotient : num / den < bound := (Nat.div_lt_iff_lt_mul positive).mpr small
  unfold roundEven
  dsimp only
  split
  · omega
  · split <;> omega

/-- The double of a significand of at most 53 bits and the exponent of its last place. -/
def ofSignificand (negative : Bool) (m : Nat) (e : Int) : Double :=
  if m < Nat.pow 2 52 then pack negative 0 m
  else if infiniteExponent ≤ (e + 1075).toNat then infinity negative
  else pack negative (e + 1075).toNat (m - Nat.pow 2 52)

/-- A significand of at most 53 bits makes the exponent no larger than its place says. -/
theorem biasedExponent_ofSignificand_le {m top : Nat} {e : Int} (negative : Bool)
    (bits : m < 2 ^ 53) (small : e ≤ top - 1073) (fits : top + 2 < 2047) :
    (ofSignificand negative m e).biasedExponent ≤ top + 2 := by
  unfold ofSignificand infiniteExponent
  rw [Nat.pow_eq]
  split
  · next subnormal =>
    exact (biasedExponent_pack negative (by decide) subnormal).trans_le (Nat.zero_le _)
  · split
    · omega
    · rw [biasedExponent_pack negative (by omega) (by omega)]
      omega

/-- A quotient is rounded, and a significand that overflows moves by one place. -/
theorem ofQuotient_eq (negative : Bool) (num_pos : 0 < num) :
    ofQuotient negative num den =
      let e := exponentOf num den
      let m := roundEven (scaled num den e).1 (scaled num den e).2
      if m == Nat.pow 2 53 then ofSignificand negative (Nat.pow 2 52) (e + 1)
      else ofSignificand negative m e := by
  unfold ofQuotient
  rw [if_neg (by simp; omega)]
  dsimp only
  split <;> rfl

/-- A rounded quotient is as large as the quotient makes it. -/
theorem biasedExponent_ofQuotient_le {top : Nat} (negative : Bool) (positive : 0 < den)
    (small : num * 2 ^ halfExponent < den * 2 ^ top) (fits : top + 2 < 2047) :
    (ofQuotient negative num den).biasedExponent ≤ top + 2 := by
  rcases Nat.eq_zero_or_pos num with rfl | num_pos
  · exact (biasedExponent_pack negative (by decide) (by decide)).trans_le (Nat.zero_le _)
  · have least := exponentOf_le num_pos small
    obtain ⟨positive', -⟩ := scaled_lt_iff num positive 0 (exponentOf num den)
    have most := roundEven_le positive' (scaled_exponentOf_lt num positive)
    rw [ofQuotient_eq negative num_pos]
    dsimp only
    split
    · exact biasedExponent_ofSignificand_le negative (by decide) (by omega) fits
    · next other =>
      have ne : roundEven (scaled num den (exponentOf num den)).1
          (scaled num den (exponentOf num den)).2 ≠ 2 ^ 53 := fun eq => other (beq_of_eq eq)
      exact biasedExponent_ofSignificand_le negative (by omega) (by omega) fits

end

/-! ## Magnitudes -/

/-- A double lies below the power of two that its exponent says. -/
theorem magnitude_lt {x : Double} {top : Nat} (exponent : x.biasedExponent ≤ top)
    (least : 1 ≤ top) :
    0 < x.magnitude.2 ∧ x.magnitude.1 * 2 ^ halfExponent < x.magnitude.2 * 2 ^ top := by
  have bits : x.parts.significand < 2 ^ 53 := by
    have fraction := x.fraction_lt
    unfold parts fractionBits
    rw [Nat.pow_eq]
    dsimp only
    split <;> omega
  -- 53 bits in this place, and the power of two is either a denominator or a factor
  have place : x.parts.exponent ≤ top - (53 + halfExponent : Nat) := by
    unfold parts halfExponent
    dsimp only
    split <;> omega
  unfold magnitude
  dsimp only
  rw [Nat.pow_eq]
  split
  · refine ⟨Nat.two_pow_pos _, ?_⟩
    calc x.parts.significand * 2 ^ halfExponent < 2 ^ 53 * 2 ^ halfExponent :=
          Nat.mul_lt_mul_of_pos_right bits (Nat.two_pow_pos _)
      _ = 2 ^ (53 + halfExponent) := (pow_add 2 53 halfExponent).symm
      _ ≤ 2 ^ (x.parts.exponent.natAbs + top) := Nat.pow_le_pow_right (by decide) (by omega)
      _ = 2 ^ x.parts.exponent.natAbs * 2 ^ top := pow_add _ _ _
  · refine ⟨Nat.one_pos, ?_⟩
    calc x.parts.significand * 2 ^ x.parts.exponent.natAbs * 2 ^ halfExponent
        = x.parts.significand * 2 ^ (x.parts.exponent.natAbs + halfExponent) := by
          rw [mul_assoc, pow_add]
      _ < 2 ^ 53 * 2 ^ (x.parts.exponent.natAbs + halfExponent) :=
          Nat.mul_lt_mul_of_pos_right bits (Nat.two_pow_pos _)
      _ = 2 ^ (53 + (x.parts.exponent.natAbs + halfExponent)) := (pow_add _ _ _).symm
      _ ≤ 2 ^ top := Nat.pow_le_pow_right (by decide) (by omega)
      _ = 1 * 2 ^ top := (one_mul _).symm

/-- A double whose exponent is that of one is one at least. -/
theorem magnitude_le {x : Double} (exponent : 1023 ≤ x.biasedExponent) :
    0 < x.magnitude.1 ∧ x.magnitude.2 ≤ x.magnitude.1 := by
  have bits : 2 ^ 52 ≤ x.parts.significand := by
    unfold parts fractionBits
    rw [Nat.pow_eq]
    dsimp only
    split
    · next zero =>
      have := eq_of_beq zero
      omega
    · omega
  -- the significand has its highest bit, and at most 52 bits are behind the point
  have place : -52 ≤ x.parts.exponent := by
    unfold parts
    dsimp only
    split
    · next zero =>
      have := eq_of_beq zero
      omega
    · omega
  unfold magnitude
  dsimp only
  rw [Nat.pow_eq]
  split
  · refine ⟨by omega, ?_⟩
    calc 2 ^ x.parts.exponent.natAbs ≤ 2 ^ 52 := Nat.pow_le_pow_right (by decide) (by omega)
      _ ≤ x.parts.significand := bits
  · have scaled : 0 < x.parts.significand * 2 ^ x.parts.exponent.natAbs :=
      Nat.mul_pos (by omega) (Nat.two_pow_pos _)
    exact ⟨scaled, scaled⟩

/-- Division by a double that is one at least makes nothing much larger. -/
theorem biasedExponent_div_le {x y : Double} {top : Nat} (exponent : x.biasedExponent ≤ top)
    (least : 1 ≤ top) (divisor : 1023 ≤ y.biasedExponent) (fits : top + 2 < 2047) :
    (x.div y).biasedExponent ≤ top + 2 := by
  obtain ⟨positive, small⟩ := magnitude_lt exponent least
  obtain ⟨divisor_pos, large⟩ := magnitude_le divisor
  refine biasedExponent_ofQuotient_le _ (Nat.mul_pos positive divisor_pos) ?_ fits
  calc x.magnitude.1 * y.magnitude.2 * 2 ^ halfExponent
      ≤ x.magnitude.1 * y.magnitude.1 * 2 ^ halfExponent :=
        Nat.mul_le_mul_right _ (Nat.mul_le_mul_left _ large)
    _ = x.magnitude.1 * 2 ^ halfExponent * y.magnitude.1 := Nat.mul_right_comm _ _ _
    _ < x.magnitude.2 * 2 ^ top * y.magnitude.1 := Nat.mul_lt_mul_of_pos_right small divisor_pos
    _ = x.magnitude.2 * y.magnitude.1 * 2 ^ top := Nat.mul_right_comm _ _ _

/-- An integer of so many bits is a double that is not much larger. -/
theorem biasedExponent_ofQuotient_one_le {n top : Nat} (negative : Bool) (small : n < 2 ^ top)
    (fits : top + 1024 < 2047) : (ofQuotient negative n 1).biasedExponent ≤ top + 1024 := by
  have below : n * 2 ^ halfExponent < 1 * 2 ^ (top + halfExponent) := by
    rw [one_mul, pow_add 2 top]
    exact Nat.mul_lt_mul_of_pos_right small (Nat.two_pow_pos _)
  exact biasedExponent_ofQuotient_le negative Nat.one_pos below fits

end InferenceGateway.Double

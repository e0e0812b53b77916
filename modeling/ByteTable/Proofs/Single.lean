import ByteTable.Single
import Mathlib.Algebra.Order.Field.Power
import Mathlib.Tactic.FieldSimp
import Mathlib.Tactic.Linarith
import Mathlib.Tactic.NormNum
import Mathlib.Tactic.Positivity
import Mathlib.Tactic.Ring

/-!
# Rounding never passes a number of single precision

What a `Single` is worth, as a rational number, and what the operations do to that worth.  A
quotient is rounded to a number that lies on the same side of every `m * 2 ^ e` with a significand
of at most 24 bits (`le_value_ofRatio`, `value_ofRatio_le`), so comparing a rounded quotient with
such a number never goes wrong in one direction, and counts of up to `2 ^ 24` are not rounded at all
(`value_ofNat`).

All that is used of the exponent that `scaleOf` picks is that the whole part of the quotient then
has 24 bits at least.  If a number of the form above has a smaller exponent, it is a whole number
after scaling; if it has a larger one, it is smaller than anything with 24 bits.
-/

namespace ByteTable

/-! ## Rounding to naturals -/

/-- Rounding picks one of the two naturals around a quotient. -/
theorem divNearestEven_bounds (num den : Nat) :
    num / den ≤ divNearestEven num den ∧ divNearestEven num den ≤ num / den + 1 := by
  unfold divNearestEven
  dsimp only
  split_ifs <;> omega

/-- A quotient is not rounded to less than a natural that it is not below. -/
theorem le_divNearestEven {num den m : Nat} (hden : 0 < den) (h : m * den ≤ num) :
    m ≤ divNearestEven num den :=
  Nat.le_trans ((Nat.le_div_iff_mul_le hden).mpr h) (divNearestEven_bounds num den).1

theorem divNearestEven_le {num den m : Nat} (hden : 0 < den) (h : num ≤ m * den) :
    divNearestEven num den ≤ m := by
  have hsplit := Nat.div_add_mod num den
  have hle : num / den ≤ m := Nat.div_le_of_le_mul (Nat.mul_comm m den ▸ h)
  rcases Nat.lt_or_eq_of_le hle with hlt | heq
  · have hup := (divNearestEven_bounds num den).2
    omega
  · -- The quotient is whole, so that there is nothing to round.
    have hmod : num % den = 0 := by
      rw [heq, Nat.mul_comm] at hsplit
      omega
    unfold divNearestEven
    dsimp only
    rw [hmod, Nat.mul_zero, if_pos hden, heq]

namespace Single

/-! ## What a number is worth -/

/-- The number as a rational. -/
def value (a : Single) : ℚ :=
  a.significand * 2 ^ a.exponent

theorem shiftLeft_toNat_div (m n : Nat) (e : ℤ) :
    ((m <<< e.toNat : Nat) : ℚ) / ((n <<< (-e).toNat : Nat) : ℚ) = (m : ℚ) / n * 2 ^ e := by
  rw [Nat.shiftLeft_eq, Nat.shiftLeft_eq]
  push_cast
  rcases le_total 0 e with h | h
  · obtain ⟨k, rfl⟩ := Int.eq_ofNat_of_zero_le h
    rw [Int.toNat_natCast, Int.toNat_neg_natCast, pow_zero, mul_one, zpow_natCast]
    ring
  · obtain ⟨k, hk⟩ := Int.eq_ofNat_of_zero_le (neg_nonneg.mpr h)
    obtain rfl : e = -(k : ℤ) := by omega
    rw [neg_neg, Int.toNat_natCast, Int.toNat_neg_natCast, pow_zero, mul_one, zpow_neg,
      zpow_natCast, div_mul_eq_div_div, div_eq_mul_inv (_ / _)]

theorem ratio_snd_pos (a : Single) : 0 < a.ratio.2 := by
  rw [ratio, Nat.one_shiftLeft]
  exact Nat.two_pow_pos _

theorem ratio_div (a : Single) : (a.ratio.1 : ℚ) / a.ratio.2 = a.value := by
  rw [ratio, shiftLeft_toNat_div, value, Nat.cast_one, div_one]

/-- The comparison is that of the worths. -/
theorem lt_iff (a b : Single) : a.lt b = true ↔ a.value < b.value := by
  have ha : (0 : ℚ) < a.ratio.2 := by exact_mod_cast a.ratio_snd_pos
  have hb : (0 : ℚ) < b.ratio.2 := by exact_mod_cast b.ratio_snd_pos
  rw [← ratio_div a, ← ratio_div b, div_lt_div_iff₀ ha hb, lt]
  dsimp only
  rw [decide_eq_true_iff]
  exact_mod_cast Iff.rfl

/-! ## Scaling -/

theorem scaled_snd_pos {den : Nat} (hden : 0 < den) (num : Nat) (e : ℤ) :
    0 < (scaled num den e).2 := by
  show 0 < den <<< e.toNat
  rw [Nat.shiftLeft_eq]
  exact Nat.mul_pos hden (Nat.two_pow_pos _)

theorem scaled_div (num den : Nat) (e : ℤ) :
    ((scaled num den e).1 : ℚ) / (scaled num den e).2 = (num : ℚ) / den * 2 ^ (-e) := by
  have h := shiftLeft_toNat_div num den (-e)
  rwa [neg_neg] at h

theorem le_scaled_iff {den : Nat} (hden : 0 < den) (num m : Nat) (e : ℤ) :
    m * (scaled num den e).2 ≤ (scaled num den e).1 ↔ (m : ℚ) * 2 ^ e ≤ (num : ℚ) / den := by
  have hpos : (0 : ℚ) < (scaled num den e).2 := by exact_mod_cast scaled_snd_pos hden num e
  have hscale : (0 : ℚ) < 2 ^ e := by positivity
  rw [← le_div_iff₀ hscale, div_eq_mul_inv ((num : ℚ) / den), ← zpow_neg, ← scaled_div,
    le_div_iff₀ hpos]
  exact_mod_cast Iff.rfl

theorem scaled_le_iff {den : Nat} (hden : 0 < den) (num m : Nat) (e : ℤ) :
    (scaled num den e).1 ≤ m * (scaled num den e).2 ↔ (num : ℚ) / den ≤ (m : ℚ) * 2 ^ e := by
  have hpos : (0 : ℚ) < (scaled num den e).2 := by exact_mod_cast scaled_snd_pos hden num e
  have hscale : (0 : ℚ) < 2 ^ e := by positivity
  rw [← div_le_iff₀ hscale, div_eq_mul_inv ((num : ℚ) / den), ← zpow_neg, ← scaled_div,
    div_le_iff₀ hpos]
  exact_mod_cast Iff.rfl

/-- A quotient is at least what the numbers of bits of its parts say. -/
theorem two_zpow_le_div {num den : Nat} (hnum : num ≠ 0) (hden : 0 < den) :
    (2 : ℚ) ^ ((num.log2 : ℤ) - den.log2 - 1) ≤ (num : ℚ) / den := by
  have hlow : ((2 ^ num.log2 : Nat) : ℚ) ≤ num := by exact_mod_cast Nat.log2_self_le hnum
  have hhigh : (den : ℚ) ≤ ((2 ^ (den.log2 + 1) : Nat) : ℚ) := by
    exact_mod_cast Nat.le_of_lt Nat.lt_log2_self
  have hpos : (0 : ℚ) < den := by exact_mod_cast hden
  have hsum : (num.log2 : ℤ) - den.log2 - 1 + (den.log2 + 1 : Nat) = num.log2 := by
    push_cast
    ring
  rw [le_div_iff₀ hpos]
  calc (2 : ℚ) ^ ((num.log2 : ℤ) - den.log2 - 1) * den
      ≤ 2 ^ ((num.log2 : ℤ) - den.log2 - 1) * ((2 ^ (den.log2 + 1) : Nat) : ℚ) := by gcongr
    _ = 2 ^ ((num.log2 : ℤ) - den.log2 - 1 + (den.log2 + 1 : Nat)) := by
        rw [zpow_add₀ two_ne_zero, zpow_natCast, Nat.cast_pow, Nat.cast_ofNat]
    _ = ((2 ^ num.log2 : Nat) : ℚ) := by
        rw [hsum, zpow_natCast, Nat.cast_pow, Nat.cast_ofNat]
    _ ≤ num := hlow

/-- At the exponent that is picked the whole part has 24 bits. -/
theorem le_div_of_scaleOf {num den : Nat} (hnum : num ≠ 0) (hden : 0 < den) :
    ((2 ^ 23 : Nat) : ℚ) * 2 ^ scaleOf num den ≤ (num : ℚ) / den := by
  have hbits := two_zpow_le_div hnum hden
  rw [← le_scaled_iff hden, scaleOf]
  dsimp only
  generalize hguess : (num.log2 : ℤ) - den.log2 - (precision - 1 : Nat) = guess
  by_cases hfew : (scaled num den guess).1 < (scaled num den guess).2 <<< (precision - 1)
  · -- The guess is off by one bit at most.
    have hone : (num.log2 : ℤ) - den.log2 - 1 = 23 + (guess - 1) := by
      rw [precision] at hguess
      omega
    rw [if_pos hfew, le_scaled_iff hden]
    refine le_trans (le_of_eq ?_) hbits
    rw [hone, zpow_add₀ two_ne_zero, Nat.cast_pow, Nat.cast_ofNat]
    rfl
  · rw [if_neg hfew, Nat.mul_comm, ← Nat.shiftLeft_eq]
    exact Nat.le_of_not_lt hfew

/-! ## Rounding to numbers -/

/-- Carrying into another bit does not change what a rounded number is worth. -/
theorem value_ofRatio {num den : Nat} (hnum : num ≠ 0) :
    (ofRatio num den).value =
      (divNearestEven (scaled num den (scaleOf num den)).1 (scaled num den (scaleOf num den)).2 :
        Nat) * 2 ^ scaleOf num den := by
  rw [ofRatio, if_neg hnum]
  dsimp only
  generalize hsignificand : divNearestEven (scaled num den (scaleOf num den)).1
    (scaled num den (scaleOf num den)).2 = significand
  by_cases hcarry : significand = 1 <<< precision
  · rw [if_pos hcarry, hcarry, value, zpow_add₀ two_ne_zero, precision]
    push_cast
    ring
  · rw [if_neg hcarry, value]

/-- A number of a larger exponent is a multiple of those of a smaller one. -/
theorem shift_mul_zpow {m : Nat} {x e : ℤ} (h : x ≤ e) :
    ((m * 2 ^ (e - x).toNat : Nat) : ℚ) * 2 ^ x = m * 2 ^ e := by
  have hsum : ((e - x).toNat : ℤ) + x = e := by omega
  rw [← hsum, zpow_add₀ two_ne_zero, hsum, zpow_natCast]
  push_cast
  ring

/-- A number of a smaller exponent is less than all that have 24 bits. -/
theorem mul_zpow_le {m : Nat} (hm : m ≤ 2 ^ 24) {x e : ℤ} (h : e < x) :
    (m : ℚ) * 2 ^ e ≤ ((2 ^ 23 : Nat) : ℚ) * 2 ^ x := by
  have hcast : (m : ℚ) ≤ ((2 ^ 24 : Nat) : ℚ) := by exact_mod_cast hm
  have hpow : (2 : ℚ) ^ (e + 1) ≤ 2 ^ x := zpow_le_zpow_right₀ one_le_two h
  calc (m : ℚ) * 2 ^ e ≤ ((2 ^ 24 : Nat) : ℚ) * 2 ^ e := by gcongr
    _ = ((2 ^ 23 : Nat) : ℚ) * 2 ^ (e + 1) := by
        rw [zpow_add₀ two_ne_zero]
        push_cast
        ring
    _ ≤ ((2 ^ 23 : Nat) : ℚ) * 2 ^ x := by gcongr

section

variable {num den m : Nat} {e : ℤ}

theorem value_ofRatio_zero (den : Nat) : (ofRatio 0 den).value = 0 := by
  rw [ofRatio, if_pos rfl, value, Nat.cast_zero, zero_mul]

/-- A quotient is not rounded below a number that it is not below. -/
theorem le_value_ofRatio (hden : 0 < den) (hm : m ≤ 2 ^ 24)
    (h : (m : ℚ) * 2 ^ e ≤ (num : ℚ) / den) : (m : ℚ) * 2 ^ e ≤ (ofRatio num den).value := by
  by_cases hnum : num = 0
  · rw [hnum, value_ofRatio_zero]
    rwa [hnum, Nat.cast_zero, zero_div] at h
  have hbits := le_div_of_scaleOf hnum hden
  rw [value_ofRatio hnum]
  generalize scaleOf num den = x at hbits
  have hpos := scaled_snd_pos hden num x
  rcases le_or_gt x e with hx | hx
  · rw [← shift_mul_zpow hx, ← le_scaled_iff hden] at h
    rw [← shift_mul_zpow hx]
    gcongr
    exact le_divNearestEven hpos h
  · rw [← le_scaled_iff hden] at hbits
    refine (mul_zpow_le hm hx).trans ?_
    gcongr
    exact le_divNearestEven hpos hbits

theorem value_ofRatio_le (hden : 0 < den) (hm : m ≤ 2 ^ 24)
    (h : (num : ℚ) / den ≤ (m : ℚ) * 2 ^ e) : (ofRatio num den).value ≤ (m : ℚ) * 2 ^ e := by
  by_cases hnum : num = 0
  · rw [hnum, value_ofRatio_zero]
    positivity
  have hbits := le_div_of_scaleOf hnum hden
  rw [value_ofRatio hnum]
  generalize scaleOf num den = x at hbits
  have hpos := scaled_snd_pos hden num x
  rcases le_or_gt x e with hx | hx
  · rw [← shift_mul_zpow hx, ← scaled_le_iff hden] at h
    rw [← shift_mul_zpow hx]
    gcongr
    exact divNearestEven_le hpos h
  · -- Between 24 bits and the number there is nothing but that number itself.
    have hwhole := h.trans (mul_zpow_le hm hx)
    rw [← scaled_le_iff hden] at hwhole
    refine le_trans ?_ (hbits.trans h)
    gcongr
    exact divNearestEven_le hpos hwhole

end

/-- A count of up to `2 ^ 24` is a number of single precision. -/
theorem value_ofNat {n : Nat} (h : n ≤ 2 ^ 24) : (ofNat n).value = n := by
  have hworth : (n : ℚ) * 2 ^ (0 : ℤ) = (n : ℚ) / (1 : Nat) := by
    rw [zpow_zero, mul_one, Nat.cast_one, div_one]
  have hlow := le_value_ofRatio Nat.one_pos h hworth.le
  have hhigh := value_ofRatio_le Nat.one_pos h hworth.ge
  rw [zpow_zero, mul_one] at hlow hhigh
  exact le_antisymm hhigh hlow

/-- A count is not rounded below a number of up to `2 ^ 24` that it is not below. -/
theorem le_value_ofNat {n m : Nat} (hm : m ≤ 2 ^ 24) (h : m ≤ n) : (m : ℚ) ≤ (ofNat n).value := by
  have hworth : (m : ℚ) * 2 ^ (0 : ℤ) ≤ (n : ℚ) / (1 : Nat) := by
    rw [zpow_zero, mul_one, Nat.cast_one, div_one]
    exact_mod_cast h
  have hlow := le_value_ofRatio Nat.one_pos hm hworth
  rwa [zpow_zero, mul_one] at hlow

/-- A quotient of numbers is one of naturals. -/
theorem ratio_mul_div (a b : Single) :
    ((a.ratio.1 * b.ratio.2 : Nat) : ℚ) / (a.ratio.2 * b.ratio.1 : Nat) = a.value / b.value := by
  rw [← ratio_div a, ← ratio_div b, div_div_div_eq]
  push_cast
  rfl

theorem ratio_fst_pos {a : Single} (ha : 0 < a.value) : 0 < a.ratio.1 := by
  rw [← ratio_div] at ha
  by_contra hzero
  rw [Nat.eq_zero_of_not_pos hzero, Nat.cast_zero, zero_div] at ha
  exact lt_irrefl _ ha

/-- A rounded quotient of numbers is that of their worths, rounded. -/
theorem le_value_div {a b : Single} (hb : 0 < b.value) {m : Nat} {e : ℤ} (hm : m ≤ 2 ^ 24)
    (h : (m : ℚ) * 2 ^ e ≤ a.value / b.value) : (m : ℚ) * 2 ^ e ≤ (a.div b).value := by
  have hden := Nat.mul_pos a.ratio_snd_pos (ratio_fst_pos hb)
  exact le_value_ofRatio hden hm (h.trans_eq (ratio_mul_div a b).symm)

end Single

end ByteTable

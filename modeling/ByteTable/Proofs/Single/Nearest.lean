import ByteTable.Proofs.Single

/-!
# Rounding goes to the nearest number

What it means that a number of single precision is a rational one rounded (`Single.Rounds`): it has
24 bits and an exponent within range, no other such number is nearer, and if another one is as near,
its significand is the even one.  Quotients are rounded in this sense (`rounds_ofRatio`), and so are
counts of 64 bits (`rounds_ofNat`) and the quotients of two of them (`rounds_div_ofNat`), none of
which comes near the ends of the range of exponents.

On the multiples of the last place all this is division of naturals.  A number of a smaller exponent
need not be such a multiple, but then the smallest multiple with 24 bits lies between it and the
quotient, and is no further off (`exists_multiple`).
-/

namespace ByteTable

/-! ## Rounding to naturals -/

section

variable {den : Nat} (num : Nat)

theorem cast_div_eq_add (hden : 0 < den) :
    (num : ℚ) / den = (num / den : Nat) + (num % den : Nat) / den := by
  have hne : (den : ℚ) ≠ 0 := by exact_mod_cast hden.ne'
  rw [add_div' _ _ _ hne, div_left_inj' hne]
  exact_mod_cast (Nat.div_add_mod' num den).symm

/-- Rounding errs by less than a half, or by a half and towards an even natural. -/
theorem abs_divNearestEven_sub (hden : 0 < den) :
    |(divNearestEven num den : ℚ) - num / den| < 1 / 2 ∨
      |(divNearestEven num den : ℚ) - num / den| = 1 / 2 ∧ divNearestEven num den % 2 = 0 := by
  have hpos : (0 : ℚ) < den := by exact_mod_cast hden
  rw [cast_div_eq_add num hden, divNearestEven]
  have hmod := Nat.mod_lt num hden
  generalize num / den = quotient
  generalize num % den = rest at hmod
  have hrest : (0 : ℚ) ≤ (rest : ℚ) / den := by positivity
  have hless : (rest : ℚ) / den < 1 := (div_lt_one hpos).mpr (by exact_mod_cast hmod)
  rcases lt_trichotomy (2 * rest) den with hbelow | hhalf | habove
  · left
    have hhalf : (rest : ℚ) / den < 1 / 2 := by
      rw [div_lt_div_iff₀ hpos two_pos]
      exact_mod_cast (by omega : rest * 2 < 1 * den)
    rw [if_pos hbelow, abs_lt]
    constructor <;> linarith
  · right
    have hhalf' : (rest : ℚ) / den = 1 / 2 := by
      rw [div_eq_div_iff hpos.ne' two_ne_zero]
      exact_mod_cast (by omega : rest * 2 = 1 * den)
    rw [if_neg hhalf.not_lt, if_neg hhalf.not_gt, hhalf']
    by_cases heven : quotient % 2 = 0
    · rw [if_pos heven, sub_add_cancel_left, abs_neg]
      exact ⟨abs_of_pos one_half_pos, heven⟩
    · rw [if_neg heven, Nat.cast_succ, add_sub_add_left_eq_sub, sub_half]
      exact ⟨abs_of_pos one_half_pos, by omega⟩
  · left
    have hhalf : 1 / 2 < (rest : ℚ) / den := by
      rw [div_lt_div_iff₀ two_pos hpos]
      exact_mod_cast (by omega : 1 * den < rest * 2)
    rw [if_neg habove.not_gt, if_pos habove, Nat.cast_succ, abs_lt]
    constructor <;> linarith

theorem abs_divNearestEven_sub_le (hden : 0 < den) :
    |(divNearestEven num den : ℚ) - num / den| ≤ 1 / 2 := by
  rcases abs_divNearestEven_sub num hden with hless | ⟨hhalf, -⟩
  · exact hless.le
  · exact hhalf.le

/-- A natural other than the rounded quotient is off by a half at least. -/
theorem half_le_abs_sub_of_ne (hden : 0 < den) {n : Nat} (hne : n ≠ divNearestEven num den) :
    1 / 2 ≤ |(n : ℚ) - num / den| := by
  have hapart : (1 : ℚ) ≤ |(n : ℚ) - divNearestEven num den| := by
    have hint : (1 : ℤ) ≤ |(n : ℤ) - divNearestEven num den| :=
      Int.one_le_abs (sub_ne_zero.mpr (by exact_mod_cast hne))
    exact_mod_cast hint
  have hnear := abs_divNearestEven_sub_le num hden
  have htriangle := abs_sub_le (n : ℚ) (num / den) (divNearestEven num den)
  rw [abs_sub_comm ((num : ℚ) / den)] at htriangle
  linarith

/-- No natural is nearer to a quotient than the quotient rounded. -/
theorem divNearestEven_nearest (hden : 0 < den) (n : Nat) :
    |(divNearestEven num den : ℚ) - num / den| ≤ |(n : ℚ) - num / den| := by
  by_cases hne : n = divNearestEven num den
  · rw [hne]
  · exact (abs_divNearestEven_sub_le num hden).trans (half_le_abs_sub_of_ne num hden hne)

/-- If two naturals are nearest to a quotient, it is rounded to the even one. -/
theorem divNearestEven_even (hden : 0 < den) {n : Nat} (hne : n ≠ divNearestEven num den)
    (htie : |(n : ℚ) - num / den| = |(divNearestEven num den : ℚ) - num / den|) :
    divNearestEven num den % 2 = 0 := by
  have hfar := half_le_abs_sub_of_ne num hden hne
  rcases abs_divNearestEven_sub num hden with hless | ⟨-, heven⟩
  · linarith
  · exact heven

end

namespace Single

/-! ## Rounding to numbers -/

/-- Whether a number is one of single precision: 24 bits at most, and an exponent within range.  The
smallest exponent serves the subnormal numbers as well. -/
def Fits (a : Single) : Prop :=
  a.significand < 2 ^ 24 ∧ -149 ≤ a.exponent ∧ a.exponent ≤ 104

/-- Whether a number of single precision is a rational number rounded to the nearest one, a tie
going to the even significand. -/
structure Rounds (a : Single) (q : ℚ) : Prop where
  /-- It is one of single precision. -/
  fits : a.Fits
  /-- It uses all of its bits, so that the last one is that of the significand. -/
  normal : a.significand = 0 ∨ 2 ^ 23 ≤ a.significand
  /-- No other one is nearer. -/
  nearest : ∀ b : Single, b.Fits → |a.value - q| ≤ |b.value - q|
  /-- If another one is as near, this is the even one. -/
  even : ∀ b : Single, b.Fits → b.value ≠ a.value → |b.value - q| = |a.value - q| →
    a.significand % 2 = 0

section

variable {a b : Single} {q : ℚ}

/-- Rounding does not go below a number that the rational is not below. -/
theorem Rounds.le_value (h : a.Rounds q) (hb : b.Fits) (hle : b.value ≤ q) : b.value ≤ a.value := by
  have hnear := h.nearest b hb
  rw [abs_of_nonpos (sub_nonpos.mpr hle)] at hnear
  have hless := neg_le_of_abs_le hnear
  linarith

/-- If some number is nearer than a bound above, rounding stays below the bound. -/
theorem Rounds.value_lt (h : a.Rounds q) (hb : b.Fits) {bound : ℚ}
    (hnear : |b.value - q| < bound - q) : a.value < bound := by
  have hless := (le_abs_self _).trans_lt ((h.nearest b hb).trans_lt hnear)
  linarith

end

/-- A quotient is less than what the numbers of bits of its parts say. -/
theorem div_lt_two_zpow {den : Nat} (hden : 0 < den) (num : Nat) :
    (num : ℚ) / den < 2 ^ ((num.log2 : ℤ) - den.log2 + 1) := by
  have hhigh : (num : ℚ) < ((2 ^ (num.log2 + 1) : Nat) : ℚ) := by exact_mod_cast Nat.lt_log2_self
  have hlow : ((2 ^ den.log2 : Nat) : ℚ) ≤ den := by exact_mod_cast Nat.log2_self_le hden.ne'
  have hpos : (0 : ℚ) < den := by exact_mod_cast hden
  have hsum : ((num.log2 + 1 : Nat) : ℤ) = (num.log2 : ℤ) - den.log2 + 1 + den.log2 := by
    push_cast
    ring
  rw [div_lt_iff₀ hpos]
  calc (num : ℚ) < ((2 ^ (num.log2 + 1) : Nat) : ℚ) := hhigh
    _ = 2 ^ ((num.log2 : ℤ) - den.log2 + 1) * ((2 ^ den.log2 : Nat) : ℚ) := by
        rw [Nat.cast_pow, Nat.cast_pow, Nat.cast_ofNat, ← zpow_natCast, ← zpow_natCast, hsum,
          zpow_add₀ two_ne_zero]
    _ ≤ 2 ^ ((num.log2 : ℤ) - den.log2 + 1) * den := by gcongr

section

variable {num den : Nat}

/-- At the exponent that is picked the whole part has no more than 24 bits. -/
theorem div_lt_of_scaleOf (hden : 0 < den) :
    (num : ℚ) / den < ((2 ^ 24 : Nat) : ℚ) * 2 ^ scaleOf num den := by
  have hbits := div_lt_two_zpow hden num
  rw [scaleOf]
  dsimp only
  generalize hguess : (num.log2 : ℤ) - den.log2 - (precision - 1 : Nat) = guess
  rw [precision] at hguess
  by_cases hfew : (scaled num den guess).1 < (scaled num den guess).2 <<< (precision - 1)
  · rw [if_pos hfew]
    rw [Nat.shiftLeft_eq, Nat.mul_comm, ← not_le, le_scaled_iff hden, not_le] at hfew
    refine hfew.trans_eq ?_
    rw [← sub_add_cancel guess 1, zpow_add₀ two_ne_zero, add_sub_cancel_right, precision]
    push_cast
    ring
  · have hsum : (num.log2 : ℤ) - den.log2 + 1 = 24 + guess := by omega
    rw [if_neg hfew]
    refine hbits.trans_eq ?_
    rw [hsum, zpow_add₀ two_ne_zero, Nat.cast_pow, Nat.cast_ofNat]
    rfl

/-- The significand of a rounded quotient before a carry. -/
def uncarried (num den : Nat) : Nat :=
  divNearestEven (scaled num den (scaleOf num den)).1 (scaled num den (scaleOf num den)).2

theorem value_ofRatio_eq (hnum : num ≠ 0) :
    (ofRatio num den).value = uncarried num den * 2 ^ scaleOf num den :=
  value_ofRatio hnum

/-- A rounded quotient has 24 bits, the last of which a carry leaves even. -/
theorem exists_ofRatio_eq (hnum : num ≠ 0) (hden : 0 < den) :
    ∃ significand exponent, ofRatio num den = ⟨significand, exponent⟩ ∧
      2 ^ 23 ≤ significand ∧ significand < 2 ^ 24 ∧
      (exponent = scaleOf num den ∨ exponent = scaleOf num den + 1) ∧
      (uncarried num den % 2 = 0 → significand % 2 = 0) := by
  have hpos := scaled_snd_pos hden num (scaleOf num den)
  have hlow : 2 ^ 23 ≤ uncarried num den :=
    le_divNearestEven hpos ((le_scaled_iff hden _ _ _).mpr (le_div_of_scaleOf hnum hden))
  have hhigh : uncarried num den ≤ 2 ^ 24 :=
    divNearestEven_le hpos ((scaled_le_iff hden _ _ _).mpr (div_lt_of_scaleOf hden).le)
  by_cases hcarry : uncarried num den = 2 ^ 24
  · refine ⟨2 ^ 23, scaleOf num den + 1, ?_, le_rfl, by norm_num, .inr rfl, fun _ => by norm_num⟩
    exact (if_neg hnum).trans (if_pos hcarry)
  · refine ⟨uncarried num den, scaleOf num den, ?_, hlow, hhigh.lt_of_ne hcarry, .inl rfl, id⟩
    exact (if_neg hnum).trans (if_neg hcarry)

theorem abs_mul_zpow_sub (n : Nat) (e : ℤ) :
    |(n : ℚ) * 2 ^ e - num / den| =
      |(n : ℚ) - (scaled num den e).1 / (scaled num den e).2| * 2 ^ e := by
  have hscale : (0 : ℚ) < 2 ^ e := by positivity
  rw [scaled_div, ← abs_of_pos hscale, ← abs_mul, abs_of_pos hscale, sub_mul, mul_assoc,
    ← zpow_add₀ two_ne_zero, neg_add_cancel, zpow_zero, mul_one]

/-- To a quotient with 24 bits before the point, some multiple of the last place is as near as any
number of 24 bits, and nearer unless it is that number. -/
theorem exists_multiple {q : ℚ} {x : ℤ} (hbits : ((2 ^ 23 : Nat) : ℚ) * 2 ^ x ≤ q) {m : Nat}
    (hm : m ≤ 2 ^ 24) (e : ℤ) :
    ∃ n : Nat, |(n : ℚ) * 2 ^ x - q| ≤ |(m : ℚ) * 2 ^ e - q| ∧
      (|(n : ℚ) * 2 ^ x - q| = |(m : ℚ) * 2 ^ e - q| → (n : ℚ) * 2 ^ x = m * 2 ^ e) := by
  rcases le_or_gt x e with hx | hx
  · refine ⟨m * 2 ^ (e - x).toNat, ?_, fun _ => shift_mul_zpow hx⟩
    rw [shift_mul_zpow hx]
  · have hbelow := mul_zpow_le hm hx
    refine ⟨2 ^ 23, ?_, fun hsame => ?_⟩
    · rw [abs_of_nonpos (sub_nonpos.mpr hbits), abs_of_nonpos (sub_nonpos.mpr (hbelow.trans hbits))]
      linarith
    · rw [abs_of_nonpos (sub_nonpos.mpr hbits),
        abs_of_nonpos (sub_nonpos.mpr (hbelow.trans hbits))] at hsame
      linarith

/-- No number of 24 bits is nearer to a quotient than the quotient rounded. -/
theorem ofRatio_nearest (hnum : num ≠ 0) (hden : 0 < den) {m : Nat} (hm : m ≤ 2 ^ 24) (e : ℤ) :
    |(ofRatio num den).value - num / den| ≤ |(m : ℚ) * 2 ^ e - num / den| := by
  obtain ⟨n, hnear, -⟩ := exists_multiple (le_div_of_scaleOf hnum hden) hm e
  refine le_trans ?_ hnear
  rw [value_ofRatio_eq hnum, abs_mul_zpow_sub, abs_mul_zpow_sub]
  refine mul_le_mul_of_nonneg_right ?_ (zpow_nonneg zero_le_two _)
  exact divNearestEven_nearest _ (scaled_snd_pos hden _ _) n

/-- If two numbers of 24 bits are nearest to a quotient, it is rounded to the even one. -/
theorem uncarried_even (hnum : num ≠ 0) (hden : 0 < den) {m : Nat} (hm : m ≤ 2 ^ 24) {e : ℤ}
    (hne : (m : ℚ) * 2 ^ e ≠ (ofRatio num den).value)
    (htie : |(m : ℚ) * 2 ^ e - num / den| = |(ofRatio num den).value - num / den|) :
    uncarried num den % 2 = 0 := by
  obtain ⟨n, hnear, hsame⟩ := exists_multiple (le_div_of_scaleOf hnum hden) hm e
  have hpos := scaled_snd_pos hden num (scaleOf num den)
  have hscale : (0 : ℚ) < 2 ^ scaleOf num den := by positivity
  rw [htie, value_ofRatio_eq hnum, abs_mul_zpow_sub, abs_mul_zpow_sub] at hnear
  have htie' := (le_of_mul_le_mul_right hnear hscale).antisymm (divNearestEven_nearest _ hpos n)
  refine divNearestEven_even _ hpos (fun heq => hne ?_) htie'
  -- The multiple would be the rounded quotient, and the other number this multiple.
  have hvalue : (n : ℚ) * 2 ^ scaleOf num den = (ofRatio num den).value := by
    rw [value_ofRatio_eq hnum, heq]
    rfl
  rw [← hvalue] at htie
  exact (hsame htie.symm).symm.trans hvalue

/-- The exponent that is picked for a quotient in the range of normal numbers. -/
theorem scaleOf_bounds (hnum : num ≠ 0) (hden : 0 < den)
    (hlow : (2 : ℚ) ^ (-126 : ℤ) ≤ (num : ℚ) / den) (hhigh : (num : ℚ) / den < 2 ^ (127 : ℤ)) :
    -149 ≤ scaleOf num den ∧ scaleOf num den < 104 := by
  have hmin := hlow.trans_lt (div_lt_of_scaleOf hden)
  have hmax := (le_div_of_scaleOf hnum hden).trans_lt hhigh
  rw [Nat.cast_pow, Nat.cast_ofNat, ← zpow_natCast, ← zpow_add₀ two_ne_zero,
    zpow_lt_zpow_iff_right₀ one_lt_two] at hmin hmax
  push_cast at hmin hmax
  omega

/-- Quotients in the range of normal numbers are rounded to the nearest number. -/
theorem rounds_ofRatio (hden : 0 < den)
    (hlow : num ≠ 0 → (2 : ℚ) ^ (-126 : ℤ) ≤ (num : ℚ) / den)
    (hhigh : (num : ℚ) / den < 2 ^ (127 : ℤ)) : (ofRatio num den).Rounds (num / den) := by
  by_cases hnum : num = 0
  · have hzero : ofRatio num den = ⟨0, 0⟩ := if_pos hnum
    have hvalue : (ofRatio num den).value = num / den := by
      rw [hnum, value_ofRatio_zero, Nat.cast_zero, zero_div]
    refine ⟨?_, ?_, fun b _ => ?_, fun _ _ _ _ => ?_⟩
    · rw [hzero]
      exact ⟨Nat.two_pow_pos _, by decide, by decide⟩
    · rw [hzero]
      exact .inl rfl
    · rw [hvalue, sub_self, abs_zero]
      exact abs_nonneg _
    · rw [hzero]
      rfl
  · obtain ⟨hmin, hmax⟩ := scaleOf_bounds hnum hden (hlow hnum) hhigh
    obtain ⟨significand, exponent, heq, hleast, hmost, hexponent, heven⟩ :=
      exists_ofRatio_eq hnum hden
    have hrange : -149 ≤ exponent ∧ exponent ≤ 104 := by omega
    refine ⟨?_, ?_, fun b hb => ofRatio_nearest hnum hden hb.1.le _, fun b hb hne htie => ?_⟩
    · rw [heq]
      exact ⟨hmost, hrange⟩
    · rw [heq]
      exact .inr hleast
    · have hlast := heven (uncarried_even hnum hden hb.1.le hne htie)
      rw [heq]
      exact hlast

end

/-! ## Counts and their quotients -/

theorem rounds_div {a b : Single} (hb : 0 < b.value)
    (hlow : a.value ≠ 0 → (2 : ℚ) ^ (-126 : ℤ) ≤ a.value / b.value)
    (hhigh : a.value / b.value < 2 ^ (127 : ℤ)) : (a.div b).Rounds (a.value / b.value) := by
  have hden := Nat.mul_pos a.ratio_snd_pos (ratio_fst_pos hb)
  rw [← ratio_mul_div] at hlow hhigh ⊢
  refine rounds_ofRatio hden (fun hnum => hlow fun hzero => hnum ?_) hhigh
  have hquotient := ratio_mul_div a b
  rw [hzero, zero_div, div_eq_zero_iff] at hquotient
  have hden' : ((a.ratio.2 * b.ratio.1 : Nat) : ℚ) ≠ 0 := by exact_mod_cast hden.ne'
  exact_mod_cast hquotient.resolve_right hden'

section

variable {n : Nat}

theorem rounds_ofNat (h : n < 2 ^ 64) : (ofNat n).Rounds n := by
  have hlow : n ≠ 0 → (2 : ℚ) ^ (-126 : ℤ) ≤ n := by
    intro hne
    have hcast : (1 : ℚ) ≤ n := by exact_mod_cast Nat.one_le_iff_ne_zero.mpr hne
    exact le_trans (by norm_num) hcast
  have hhigh : (n : ℚ) < 2 ^ (127 : ℤ) := by
    have hcast : (n : ℚ) < ((2 ^ 64 : Nat) : ℚ) := by exact_mod_cast h
    exact hcast.trans (by norm_num)
  have hworth : (n : ℚ) / (1 : Nat) = n := by rw [Nat.cast_one, div_one]
  rw [← hworth] at hlow hhigh ⊢
  exact rounds_ofRatio Nat.one_pos hlow hhigh

theorem one_le_value_ofNat (h : n ≠ 0) : 1 ≤ (ofNat n).value := by
  have hone := le_value_ofNat (by norm_num : 1 ≤ 2 ^ 24) (Nat.one_le_iff_ne_zero.mpr h)
  rwa [Nat.cast_one] at hone

theorem value_ofNat_le (h : n < 2 ^ 64) : (ofNat n).value ≤ 2 ^ 64 := by
  have hworth : (n : ℚ) / (1 : Nat) ≤ (1 : Nat) * 2 ^ (64 : ℤ) := by
    rw [Nat.cast_one, div_one, one_mul]
    exact_mod_cast h.le
  have hhigh := value_ofRatio_le Nat.one_pos (by norm_num) hworth
  rwa [Nat.cast_one, one_mul] at hhigh

theorem rounds_div_ofNat {d : Nat} (hn : n < 2 ^ 64) (hpos : 0 < d) (hd : d < 2 ^ 64) :
    ((ofNat n).div (ofNat d)).Rounds ((ofNat n).value / (ofNat d).value) := by
  have hleast := one_le_value_ofNat hpos.ne'
  have hpos' : 0 < (ofNat d).value := one_pos.trans_le hleast
  refine rounds_div hpos' (fun hne => ?_) ?_
  · have hne' : n ≠ 0 := by
      rintro rfl
      exact hne (value_ofRatio_zero 1)
    rw [le_div_iff₀ hpos']
    calc (2 : ℚ) ^ (-126 : ℤ) * (ofNat d).value ≤ 2 ^ (-126 : ℤ) * 2 ^ 64 := by
          gcongr
          exact value_ofNat_le hd
      _ ≤ 1 := by norm_num
      _ ≤ (ofNat n).value := one_le_value_ofNat hne'
  · rw [div_lt_iff₀ hpos']
    calc (ofNat n).value ≤ 2 ^ 64 := value_ofNat_le hn
      _ < 2 ^ (127 : ℤ) * 1 := by norm_num
      _ ≤ 2 ^ (127 : ℤ) * (ofNat d).value := by gcongr

end

end Single

end ByteTable

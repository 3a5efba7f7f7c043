import Mathlib
import TradeTracker.Decimal.Basic

/-! Decimal arithmetic as rounding of rational numbers. Every operation looks at the values of its
operands only, never at their scales, and is off by at most half of the last place a decimal can
have, or by that much relative to a larger result. -/
namespace TradeTracker

/-- Rounding moves a quotient by at most one half. -/
theorem roundHalfEven_bounds (num : Nat) {den : Nat} (hden : 0 < den) :
    2 * num ≤ (2 * roundHalfEven num den + 1) * den ∧
      2 * roundHalfEven num den * den ≤ 2 * num + den := by
  have hnum := Nat.div_add_mod num den
  have hlt := Nat.mod_lt num hden
  simp only [roundHalfEven]
  generalize num / den = q at hnum ⊢
  generalize num % den = r at hnum hlt ⊢
  have hexpand (k : Nat) : 2 * (q + k) * den = 2 * (den * q) + 2 * k * den := by ring
  have hexpand' (k : Nat) : (2 * (q + k) + 1) * den = 2 * (den * q) + (2 * k + 1) * den := by ring
  have h0 := hexpand 0
  have h0' := hexpand' 0
  have h1 := hexpand 1
  have h1' := hexpand' 1
  simp only [Nat.add_zero] at h0 h0'
  split_ifs with hlow hhigh
  · omega
  · omega
  · rcases Nat.mod_two_eq_zero_or_one q with hq | hq <;> rw [hq]
    · simp only [Nat.add_zero]
      omega
    · omega

theorem roundHalfEven_mul_right (num den : Nat) {k : Nat} (hk : 0 < k) :
    roundHalfEven (num * k) (den * k) = roundHalfEven num den := by
  have hlow : 2 * (num % den * k) < den * k ↔ 2 * (num % den) < den := by
    rw [← Nat.mul_assoc, Nat.mul_lt_mul_right hk]
  have hhigh : den * k < 2 * (num % den * k) ↔ den < 2 * (num % den) := by
    rw [← Nat.mul_assoc, Nat.mul_lt_mul_right hk]
  simp only [roundHalfEven, Nat.mul_div_mul_right _ _ hk, Nat.mul_mod_mul_right, hlow, hhigh]

theorem roundHalfEven_error (num : Nat) {den : Nat} (hden : 0 < den) :
    |(roundHalfEven num den : ℚ) - num / den| ≤ 1 / 2 := by
  obtain ⟨hlow, hhigh⟩ := roundHalfEven_bounds num hden
  generalize roundHalfEven num den = m at hlow hhigh ⊢
  have hD : (0 : ℚ) < den := by exact_mod_cast hden
  have hlow : 2 * (num : ℚ) ≤ (2 * m + 1) * den := by exact_mod_cast hlow
  have hhigh : 2 * (m : ℚ) * den ≤ 2 * num + den := by exact_mod_cast hhigh
  have habs : |(m : ℚ) * den - num| ≤ 1 / 2 * den := by
    rw [abs_le]
    constructor <;> linarith
  have hshare : (m : ℚ) - num / den = (m * den - num) / den := by field_simp
  rwa [hshare, abs_div, abs_of_pos hD, div_le_iff₀ hD]

namespace Decimal

/-- The value of a decimal as a fraction. -/
theorem toRat_eq (d : Decimal) : d.toRat = (d.mantissa : ℚ) / 10 ^ d.scale := by
  rw [toRat, Rat.mkRat_eq_div]
  push_cast
  rfl

theorem ofParts?_eq_some {mantissa : Int} {scale : Nat} {d : Decimal}
    (h : ofParts? mantissa scale = some d) : d.mantissa = mantissa ∧ d.scale = scale := by
  unfold ofParts? at h
  split at h
  · obtain rfl := Option.some.inj h
    exact ⟨rfl, rfl⟩
  · exact absurd h (by simp)

/-- A found scale has room for the quotient, and no larger one has. -/
theorem fittingScale?_eq_some {num den limit s : Nat} (h : fittingScale? num den limit = some s) :
    s ≤ limit ∧ num * 10 ^ s / den < mantissaBound ∧
      ∀ t, s < t → t ≤ limit → mantissaBound ≤ num * 10 ^ t / den := by
  induction limit with
  | zero =>
    simp only [fittingScale?] at h
    split at h
    · rename_i hfit
      obtain rfl := Option.some.inj h
      exact ⟨le_refl _, by simpa using hfit, fun t ht hle => absurd hle (by omega)⟩
    · exact absurd h (by simp)
  | succ limit ih =>
    simp only [fittingScale?] at h
    split at h
    · rename_i hfit
      obtain rfl := Option.some.inj h
      exact ⟨le_refl _, hfit, fun t ht hle => absurd hle (by omega)⟩
    · rename_i hfull
      obtain ⟨hle, hfit, hmax⟩ := ih h
      refine ⟨Nat.le_succ_of_le hle, hfit, fun t ht hlt => ?_⟩
      rcases Nat.le_succ_iff.1 hlt with hlt | rfl
      · exact hmax t ht hlt
      · exact Nat.le_of_not_lt hfull

private theorem fittingScale?_mul_right (num den limit : Nat) {k : Nat} (hk : 0 < k) :
    fittingScale? (num * k) (den * k) limit = fittingScale? num den limit := by
  induction limit with
  | zero => simp only [fittingScale?, Nat.mul_div_mul_right _ _ hk]
  | succ limit ih =>
    have hshift (s : Nat) : num * k * 10 ^ s = num * 10 ^ s * k := Nat.mul_right_comm _ _ _
    simp only [fittingScale?, hshift, Nat.mul_div_mul_right _ _ hk, ih]

/-- A rounded quotient is the nearest number at its scale, and below the largest scale one more
digit would take the mantissa past its bits. -/
theorem roundQuotient?_eq_some {num den m s : Nat} (hden : 0 < den)
    (h : roundQuotient? num den = some (m, s)) :
    m = roundHalfEven (num * 10 ^ s) den ∧
      (s = maxScale ∨ 2 * mantissaBound * den ≤ 2 * (num * 10 ^ (s + 1)) + den) := by
  rw [roundQuotient?] at h
  obtain ⟨scale, hscale, h⟩ := Option.bind_eq_some_iff.1 h
  obtain ⟨hle, -, hmax⟩ := fittingScale?_eq_some hscale
  by_cases hfit : roundHalfEven (num * 10 ^ scale) den < mantissaBound
  · obtain ⟨rfl, rfl⟩ := Prod.mk.inj (Option.some.inj ((if_pos hfit).symm.trans h))
    refine ⟨rfl, ?_⟩
    rcases Nat.eq_or_lt_of_le hle with heq | hlt
    · exact Or.inl heq
    · have hfull := (Nat.le_div_iff_mul_le hden).1 (hmax (scale + 1) (Nat.lt_succ_self _) hlt)
      right
      rw [Nat.mul_assoc]
      omega
  · have h := (if_neg hfit).symm.trans h
    by_cases hzero : scale = 0
    · exact absurd ((if_pos hzero).symm.trans h) (by simp)
    · obtain ⟨rfl, rfl⟩ := Prod.mk.inj (Option.some.inj ((if_neg hzero).symm.trans h))
      have hbound := (roundHalfEven_bounds (num * 10 ^ scale) hden).2
      have hcarry := Nat.mul_le_mul_right den (Nat.mul_le_mul_left 2 (not_lt.1 hfit))
      refine ⟨rfl, Or.inr ?_⟩
      rw [Nat.sub_add_cancel (Nat.pos_of_ne_zero hzero)]
      exact hcarry.trans hbound

private theorem roundQuotient?_mul_right (num den : Nat) {k : Nat} (hk : 0 < k) :
    roundQuotient? (num * k) (den * k) = roundQuotient? num den := by
  have hshift (s : Nat) : num * k * 10 ^ s = num * 10 ^ s * k := Nat.mul_right_comm _ _ _
  simp only [roundQuotient?, fittingScale?_mul_right _ _ _ hk, hshift,
    roundHalfEven_mul_right _ _ hk]

private theorem ofQuotient?_mul_right (num : Int) (den : Nat) {k : Nat} (hk : 0 < k) :
    ofQuotient? (num * k) (den * k) = ofQuotient? num den := by
  have hk' : (0 : Int) < k := by exact_mod_cast hk
  have hsign : num * k < 0 ↔ num < 0 :=
    ⟨fun h => neg_of_mul_neg_left h hk'.le, fun h => mul_neg_of_neg_of_pos h hk'⟩
  simp only [ofQuotient?, Int.natAbs_mul, Int.natAbs_natCast, roundQuotient?_mul_right _ _ hk,
    hsign]

/-- The decimal nearest to a number, at the largest scale that has room for it. -/
def round? (q : ℚ) : Option Decimal := ofQuotient? q.num q.den

private theorem ofQuotient?_eq_round? (num : Int) {den : Nat} (hden : 0 < den) :
    ofQuotient? num den = round? (num / den) := by
  obtain ⟨c, hn, hd⟩ := Rat.exists_eq_mul_div_num_and_eq_mul_div_den num
    (show (den : ℤ) ≠ 0 by exact_mod_cast hden.ne')
  rw [Int.cast_natCast] at hn hd
  set q : ℚ := num / den
  have hc : 0 < c := by
    have hpos : 0 < c * (q.den : ℤ) := by rw [← hd]; exact_mod_cast hden
    exact pos_of_mul_pos_left hpos (by exact_mod_cast q.den_pos.le)
  lift c to ℕ using hc.le
  have hden' : den = q.den * c := by rw [Nat.mul_comm]; exact_mod_cast hd
  rw [round?, hn, hden', Int.mul_comm, ofQuotient?_mul_right _ _ (by exact_mod_cast hc)]

private theorem magnitude_error {num den m s : Nat} (hden : 0 < den)
    (h : roundQuotient? num den = some (m, s)) :
    |(m : ℚ) / 10 ^ s - (num : ℚ) / den| ≤ max (1 / 2 : ℚ) ((num : ℚ) / den) / 10 ^ 28 := by
  obtain ⟨hm, hs⟩ := roundQuotient?_eq_some hden h
  have hD : (0 : ℚ) < den := by exact_mod_cast hden
  have hP : (0 : ℚ) < 10 ^ s := by positivity
  have hhalf : |(m : ℚ) / 10 ^ s - (num : ℚ) / den| ≤ 1 / 2 / 10 ^ s := by
    have hmantissa := roundHalfEven_error (num * 10 ^ s) hden
    rw [← hm, Nat.cast_mul, Nat.cast_pow, Nat.cast_ofNat] at hmantissa
    have hshare : (m : ℚ) / 10 ^ s - num / den = (m - num * 10 ^ s / den) / 10 ^ s := by
      field_simp
    rw [hshare, abs_div, abs_of_pos hP]
    exact div_le_div_of_nonneg_right hmantissa hP.le
  refine hhalf.trans ?_
  rcases hs with rfl | hfull
  · exact div_le_div_of_nonneg_right (le_max_left _ _) hP.le
  · have hfull := (Nat.cast_le (α := ℚ)).2 hfull
    push_cast at hfull
    have hroom : (10 : ℚ) ^ 29 + 1 ≤ 2 * mantissaBound := by norm_num [mantissaBound]
    have hmul := mul_le_mul_of_nonneg_right hroom hD.le
    have hlarge : 1 / 2 / 10 ^ s ≤ (num : ℚ) / den / 10 ^ 28 := by
      rw [div_div, div_div, div_le_div_iff₀ (by positivity) (by positivity)]
      rw [pow_succ] at hfull
      linarith
    exact hlarge.trans (div_le_div_of_nonneg_right (le_max_right _ _) (by positivity))

private theorem round?_eq_some {q : ℚ} {d : Decimal} (h : round? q = some d) :
    ∃ m s, roundQuotient? q.num.natAbs q.den = some (m, s) ∧
      d.toRat = if q < 0 then - ((m : ℚ) / 10 ^ s) else (m : ℚ) / 10 ^ s := by
  obtain ⟨⟨m, s⟩, hround, hparts⟩ := Option.bind_eq_some_iff.1 h
  obtain ⟨hmantissa, hscale⟩ := ofParts?_eq_some hparts
  refine ⟨m, s, hround, ?_⟩
  rw [toRat_eq, hmantissa, hscale]
  by_cases hneg : q < 0
  · rw [if_pos hneg, if_pos (Rat.num_neg.2 hneg)]
    push_cast
    ring
  · rw [if_neg hneg, if_neg fun hnum => hneg (Rat.num_neg.1 hnum)]
    push_cast
    rfl

theorem abs_eq_natAbs_div_den (q : ℚ) : |q| = (q.num.natAbs : ℚ) / q.den := by
  have hden : (0 : ℚ) < q.den := by exact_mod_cast q.den_pos
  rw [Nat.cast_natAbs, Int.cast_abs, ← abs_of_pos hden, ← abs_div, Rat.num_div_den]

/-- One operation is off by at most half of the last place a decimal can have, or by that place's
share of a larger result. -/
theorem round?_error {q : ℚ} {d : Decimal} (h : round? q = some d) :
    |d.toRat - q| ≤ max (1 / 2) |q| / 10 ^ 28 := by
  obtain ⟨m, s, hround, hd⟩ := round?_eq_some h
  have herror := magnitude_error q.den_pos hround
  rw [← abs_eq_natAbs_div_den] at herror
  rw [hd]
  by_cases hneg : q < 0
  · rw [if_pos hneg]
    have hflip : -((m : ℚ) / 10 ^ s) - q = -(m / 10 ^ s - |q|) := by rw [abs_of_neg hneg]; ring
    rw [hflip, abs_neg]
    exact herror
  · rw [if_neg hneg]
    nth_rewrite 1 [abs_of_nonneg (not_lt.1 hneg)] at herror
    exact herror

theorem round?_nonneg {q : ℚ} {d : Decimal} (h : round? q = some d) (hq : 0 ≤ q) :
    0 ≤ d.toRat := by
  obtain ⟨m, s, -, hvalue⟩ := round?_eq_some h
  rw [hvalue, if_neg hq.not_gt]
  positivity

/-- Only positive numbers round to positive decimals. -/
theorem pos_of_round?_pos {q : ℚ} {d : Decimal} (h : round? q = some d) (hd : 0 < d.toRat) :
    0 < q := by
  obtain ⟨m, s, hround, hvalue⟩ := round?_eq_some h
  rcases lt_trichotomy q 0 with hneg | rfl | hpos
  · rw [hvalue, if_pos hneg] at hd
    have : (0 : ℚ) ≤ (m : ℚ) / 10 ^ s := by positivity
    linarith
  · obtain ⟨rfl, -⟩ := roundQuotient?_eq_some Nat.one_pos hround
    simp [hvalue, roundHalfEven] at hd
  · exact hpos

/-- Multiplied back, a rounded quotient is off by the divisor's share of half the last place. -/
theorem round?_div_error {a b : ℚ} {d : Decimal} (hb : 0 < b) (h : round? (a / b) = some d) :
    |d.toRat * b - a| ≤ max (b / 2) |a| / 10 ^ 28 := by
  have herror := mul_le_mul_of_nonneg_right (round?_error h) hb.le
  rw [← abs_of_pos hb, ← abs_mul, sub_mul, abs_of_pos hb, div_mul_cancel₀ _ hb.ne',
    div_mul_eq_mul_div, max_mul_of_nonneg _ _ hb.le, abs_div, abs_of_pos hb,
    div_mul_cancel₀ _ hb.ne', one_div_mul_eq_div] at herror
  exact herror

theorem sub?_eq (a b : Decimal) : a.sub? b = round? (a.toRat - b.toRat) := by
  rw [sub?, ofQuotient?_eq_round? _ (by positivity), toRat_eq, toRat_eq,
    div_sub_div _ _ (by positivity) (by positivity)]
  push_cast
  rw [pow_add, mul_comm (b.mantissa : ℚ)]

theorem mul?_eq (a b : Decimal) : a.mul? b = round? (a.toRat * b.toRat) := by
  rw [mul?, ofQuotient?_eq_round? _ (by positivity), toRat_eq, toRat_eq, div_mul_div_comm]
  push_cast
  rw [pow_add]

theorem div?_eq (a : Decimal) {b : Decimal} (hb : b.toRat ≠ 0) :
    a.div? b = round? (a.toRat / b.toRat) := by
  have hmantissa : b.mantissa ≠ 0 := by
    intro hzero
    exact hb (by rw [toRat_eq, hzero, Int.cast_zero, zero_div])
  rw [div?, if_neg hmantissa, ofQuotient?_eq_round? _ (by positivity), toRat_eq, toRat_eq,
    div_div_div_eq]
  have hsign : (b.mantissa.sign : ℚ) * b.mantissa = b.mantissa.natAbs := by
    rw [← Int.cast_mul, Int.sign_mul_self, Int.cast_natCast]
  have hmantissa' : (b.mantissa : ℚ) ≠ 0 := Int.cast_ne_zero.2 hmantissa
  have hmagnitude : (b.mantissa.natAbs : ℚ) ≠ 0 :=
    Nat.cast_ne_zero.2 (Int.natAbs_ne_zero.2 hmantissa)
  congr 1
  push_cast
  rw [div_eq_div_iff (by positivity) (by positivity)]
  linear_combination (a.mantissa : ℚ) * 10 ^ b.scale * 10 ^ a.scale * hsign

theorem isPositive_iff (d : Decimal) : d.isPositive = true ↔ 0 < d.toRat := by
  rw [isPositive, decide_eq_true_iff, toRat_eq, div_pos_iff_of_pos_right (by positivity),
    Int.cast_pos]

theorem isZero_iff (d : Decimal) : d.isZero = true ↔ d.toRat = 0 := by
  rw [isZero, beq_iff_eq, toRat_eq, div_eq_zero_iff, or_iff_left (by positivity), Int.cast_eq_zero]

theorem toRat_ofRaw (raw : UInt64) (decimals : Nat) (h : decimals ≤ 28) :
    (ofRaw raw decimals h).toRat = (raw.toNat : ℚ) / 10 ^ decimals := by
  rw [toRat_eq, ofRaw, Int.cast_natCast]

@[simp] theorem toRat_one : one.toRat = 1 := by
  rw [toRat_eq]
  norm_num [one]

private theorem trailingZeros_spec (digits n : Nat) :
    trailingZeros digits n ≤ digits ∧ 10 ^ trailingZeros digits n ∣ n := by
  induction digits generalizing n with
  | zero => exact ⟨le_refl _, one_dvd _⟩
  | succ digits ih =>
    rw [trailingZeros]
    split
    · rename_i hzero
      obtain ⟨hle, hdvd⟩ := ih (n / 10)
      refine ⟨Nat.succ_le_succ hle, ?_⟩
      have hmul := Nat.mul_dvd_mul_right hdvd 10
      rw [Nat.div_mul_cancel (Nat.dvd_of_mod_eq_zero hzero)] at hmul
      rw [pow_succ]
      exact hmul
    · exact ⟨Nat.zero_le _, one_dvd _⟩

/-- Normalization takes the zeros at the end off the mantissa and off the scale. -/
theorem normalize_parts (d : Decimal) :
    d.normalize.mantissa * 10 ^ trailingZeros d.scale d.mantissa.natAbs = d.mantissa ∧
      d.normalize.scale + trailingZeros d.scale d.mantissa.natAbs = d.scale := by
  obtain ⟨hle, hdvd⟩ := trailingZeros_spec d.scale d.mantissa.natAbs
  generalize hzeros : trailingZeros d.scale d.mantissa.natAbs = zeros at hle hdvd ⊢
  obtain ⟨rest, hrest⟩ := Int.natCast_dvd.2 hdvd
  push_cast at hrest
  have hfits : rest.natAbs < mantissaBound ∧ d.scale - zeros ≤ 28 := by
    refine ⟨lt_of_le_of_lt ?_ d.mantissa_lt, (Nat.sub_le _ _).trans d.scale_le⟩
    rw [hrest, Int.natAbs_mul]
    exact Nat.le_mul_of_pos_left _ (by positivity)
  have hparts : d.normalize = ⟨rest, d.scale - zeros, hfits.1, hfits.2⟩ := by
    have hquotient : d.mantissa / 10 ^ zeros = rest := by
      rw [hrest, Int.mul_ediv_cancel_left _ (by positivity)]
    rw [normalize, hzeros, hquotient, ofParts?, dif_pos hfits, Option.getD_some]
  rw [hparts]
  exact ⟨by rw [hrest, Int.mul_comm], Nat.sub_add_cancel hle⟩

@[simp] theorem toRat_normalize (d : Decimal) : d.normalize.toRat = d.toRat := by
  obtain ⟨hmantissa, hscale⟩ := d.normalize_parts
  generalize trailingZeros d.scale d.mantissa.natAbs = zeros at hmantissa hscale
  rw [toRat_eq d, toRat_eq d.normalize, ← hmantissa, ← hscale, pow_add, Int.cast_mul, Int.cast_pow,
    Int.cast_ofNat, mul_div_mul_right _ _ (by positivity)]

end Decimal
end TradeTracker

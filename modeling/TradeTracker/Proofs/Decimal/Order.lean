import TradeTracker.Proofs.Decimal.Rounding

/-! Rounding and the order of numbers. Of two numbers the larger one is rounded to the larger
decimal, whatever their scales. A rounded number never passes a number of fewer places, and it stays
strictly on its side of a number of four places where the exact fraction has a small denominator:
two such fractions are further apart than rounding can move one of them. -/
namespace TradeTracker

private theorem le_roundHalfEven {num den n : ℕ} (hden : 0 < den) (h : n * den ≤ num) :
    n ≤ roundHalfEven num den := by
  have hbound := (roundHalfEven_bounds num hden).1
  have hle : 2 * n * den ≤ (2 * roundHalfEven num den + 1) * den := by
    rw [Nat.mul_assoc]
    omega
  have := Nat.le_of_mul_le_mul_right hle hden
  omega

theorem roundHalfEven_le {num den n : ℕ} (hden : 0 < den) (h : num ≤ n * den) :
    roundHalfEven num den ≤ n := by
  have hbound := (roundHalfEven_bounds num hden).2
  have hle : 2 * roundHalfEven num den * den ≤ (2 * n + 1) * den := by
    rw [Nat.add_mul, Nat.mul_assoc 2 n, Nat.one_mul]
    omega
  have := Nat.le_of_mul_le_mul_right hle hden
  omega

private theorem roundHalfEven_lt {num den n : ℕ} (hden : 0 < den)
    (h : 2 * num + den < 2 * (n * den)) :
    roundHalfEven num den < n := by
  have hbound := (roundHalfEven_bounds num hden).2
  rw [Nat.mul_assoc] at hbound
  exact Nat.lt_of_mul_lt_mul_right (show roundHalfEven num den * den < n * den by omega)

private theorem roundHalfEven_le_roundHalfEven {num num' : ℕ} (den : ℕ) (h : num ≤ num') :
    roundHalfEven num den ≤ roundHalfEven num' den := by
  have hquotient := Nat.div_le_div_right (c := den) h
  have hnum := Nat.div_add_mod num den
  have hnum' := Nat.div_add_mod num' den
  have hparity := Nat.mod_lt (num / den) two_pos
  simp only [roundHalfEven]
  rcases Nat.eq_or_lt_of_le hquotient with heq | hlt
  · rw [heq] at hnum ⊢
    split_ifs <;> omega
  · split_ifs <;> omega

private theorem roundHalfEven_mono {a b c d : ℕ} (hb : 0 < b) (hd : 0 < d) (h : a * d ≤ c * b) :
    roundHalfEven a b ≤ roundHalfEven c d := by
  rw [← roundHalfEven_mul_right a b hd, ← roundHalfEven_mul_right c d hb, Nat.mul_comm d b]
  exact roundHalfEven_le_roundHalfEven (b * d) h

theorem roundHalfUp_eq_floor (num : ℕ) {den : ℕ} (hden : 0 < den) :
    roundHalfUp num den = ⌊(num : ℚ) / den + 1 / 2⌋₊ := by
  have hD : (den : ℚ) ≠ 0 := by exact_mod_cast hden.ne'
  have hsum : (num : ℚ) / den + 1 / 2 = ((2 * num + den : ℕ) : ℚ) / ((2 * den : ℕ) : ℚ) := by
    push_cast
    field_simp
  rw [hsum, Nat.floor_div_eq_div, roundHalfUp]

theorem roundHalfUp_le (num : ℕ) {den : ℕ} (hden : 0 < den) : roundHalfUp num den ≤ num := by
  have hgrow : num ≤ num * den := Nat.le_mul_of_pos_right num hden
  rw [roundHalfUp, ← Nat.lt_succ_iff, Nat.div_lt_iff_lt_mul (by positivity)]
  calc 2 * num + den < 2 * (num * den) + 2 * den := by omega
    _ = num.succ * (2 * den) := by rw [Nat.succ_eq_add_one]; ring

namespace Decimal

theorem le_iff (a b : Decimal) : a.le b = true ↔ a.toRat ≤ b.toRat := by
  rw [le, decide_eq_true_iff, toRat_eq, toRat_eq, div_le_div_iff₀ (by positivity) (by positivity)]
  exact_mod_cast Iff.rfl

theorem toRat_ofWhole (n : UInt64) : (ofWhole n).toRat = n.toNat := by
  rw [ofWhole, toRat_ofRaw, pow_zero, div_one]

theorem toRat_mul_pow_scale (d : Decimal) : d.toRat * 10 ^ d.scale = d.mantissa := by
  rw [toRat_eq, div_mul_cancel₀ _ (by positivity)]

private theorem abs_mantissa_le (d : Decimal) : |(d.mantissa : ℚ)| ≤ (mantissaBound - 1 : ℕ) := by
  rw [← Int.cast_abs, ← Nat.cast_natAbs]
  exact Nat.cast_le.2 (Nat.le_sub_one_of_lt d.mantissa_lt)

theorem abs_toRat_le (d : Decimal) : |d.toRat| ≤ (mantissaBound - 1 : ℕ) := by
  have hpow : (1 : ℚ) ≤ |10 ^ d.scale| := by
    rw [abs_of_pos (by positivity)]
    exact one_le_pow₀ (by norm_num)
  rw [toRat_eq, abs_div]
  exact (div_le_self (abs_nonneg _) hpow).trans d.abs_mantissa_le

section Magnitude
variable {q r : ℚ} {d e : Decimal}

private theorem natAbs_num_div_den (hq : 0 ≤ q) : (q.num.natAbs : ℚ) / q.den = q := by
  rw [← abs_eq_natAbs_div_den, abs_of_nonneg hq]

private theorem natAbs_num_eq (hq : 0 ≤ q) : (q.num.natAbs : ℚ) = q * q.den := by
  have hden : (q.den : ℚ) ≠ 0 := by exact_mod_cast q.den_ne_zero
  rw [← div_eq_iff hden, natAbs_num_div_den hq]

private theorem mantissa_of_round? (hq : 0 ≤ q) (h : round? q = some d) :
    d.mantissa = roundHalfEven (q.num.natAbs * 10 ^ d.scale) q.den ∧
      (d.scale = maxScale ∨
        2 * mantissaBound * q.den ≤ 2 * (q.num.natAbs * 10 ^ (d.scale + 1)) + q.den) := by
  obtain ⟨⟨m, s⟩, hround, hparts⟩ := Option.bind_eq_some_iff.1 h
  obtain ⟨hmantissa, hscale⟩ := ofParts?_eq_some hparts
  obtain ⟨hm, hs⟩ := roundQuotient?_eq_some q.den_pos hround
  rw [hmantissa, if_neg (not_lt.2 (Rat.num_nonneg.2 hq))]
  subst hscale hm
  exact ⟨rfl, hs⟩

private theorem mantissa_error (hq : 0 ≤ q) (h : round? q = some d) :
    |(d.mantissa : ℚ) - q * 10 ^ d.scale| ≤ 1 / 2 := by
  have herror := roundHalfEven_error (q.num.natAbs * 10 ^ d.scale) q.den_pos
  have hvalue : ((q.num.natAbs * 10 ^ d.scale : ℕ) : ℚ) / q.den = q * 10 ^ d.scale := by
    rw [Nat.cast_mul, Nat.cast_pow, Nat.cast_ofNat, mul_div_right_comm, natAbs_num_div_den hq]
  rwa [(mantissa_of_round? hq h).1, Int.cast_natCast, ← hvalue]

/-- A rounded number is off by at most half of its last place. -/
theorem place_error (hq : 0 ≤ q) (h : round? q = some d) :
    |d.toRat - q| ≤ 1 / 2 / 10 ^ d.scale := by
  have hpow : (0 : ℚ) < 10 ^ d.scale := by positivity
  have hshare : d.toRat - q = (d.mantissa - q * 10 ^ d.scale) / 10 ^ d.scale := by
    rw [← toRat_mul_pow_scale, ← sub_mul, mul_div_cancel_right₀ _ hpow.ne']
  rw [hshare, abs_div, abs_of_pos hpow]
  exact div_le_div_of_nonneg_right (mantissa_error hq h) hpow.le

private theorem full_of_scale_lt (hq : 0 ≤ q) (h : round? q = some d)
    (hscale : d.scale < maxScale) :
    (mantissaBound : ℚ) - 1 / 2 ≤ q * 10 ^ (d.scale + 1) := by
  have hfull := (mantissa_of_round? hq h).2.resolve_left hscale.ne
  have hden : (0 : ℚ) < q.den := by exact_mod_cast q.den_pos
  have hfull : 2 * (mantissaBound : ℚ) * q.den ≤
      2 * (q.num.natAbs * 10 ^ (d.scale + 1)) + q.den := by exact_mod_cast hfull
  rw [natAbs_num_eq hq] at hfull
  refine le_of_mul_le_mul_right ?_ hden
  linarith

/-- Numbers up to `7 * 10 ^ e` keep all but `e` places. -/
theorem maxScale_le_of_round? {e : ℕ} (hq : 0 ≤ q) (h : round? q = some d)
    (hle : q ≤ 7 * 10 ^ e) : maxScale ≤ d.scale + e := by
  by_contra hlt
  have hfull := full_of_scale_lt hq h (by omega)
  have hroom : (7 : ℚ) * 10 ^ maxScale < mantissaBound - 1 / 2 := by
    norm_num [maxScale, mantissaBound]
  have hpow : (10 : ℚ) ^ (e + (d.scale + 1)) ≤ 10 ^ maxScale :=
    pow_le_pow_right₀ (by norm_num) (by omega)
  have hshift : q * 10 ^ (d.scale + 1) ≤ 7 * 10 ^ maxScale := by
    calc q * 10 ^ (d.scale + 1) ≤ 7 * 10 ^ e * 10 ^ (d.scale + 1) :=
          mul_le_mul_of_nonneg_right hle (by positivity)
      _ = 7 * 10 ^ (e + (d.scale + 1)) := by rw [mul_assoc, ← pow_add]
      _ ≤ 7 * 10 ^ maxScale := mul_le_mul_of_nonneg_left hpow (by norm_num)
  linarith

theorem le_scale_of_round? {e : ℕ} (hq : 0 ≤ q) (h : round? q = some d) (hle : q ≤ 10 ^ e) :
    maxScale ≤ d.scale + e := by
  refine maxScale_le_of_round? hq h (hle.trans ?_)
  exact le_mul_of_one_le_left (by positivity) (by norm_num)

private theorem scale_le_of_le (hq : 0 ≤ q) (hle : q ≤ r) (hd : round? q = some d)
    (he : round? r = some e) : e.scale ≤ d.scale := by
  by_contra hlt
  have hscale := not_le.1 hlt
  have hr := hq.trans hle
  have hfull := full_of_scale_lt hq hd (hscale.trans_le e.scale_le)
  have hnear := (abs_le.1 (mantissa_error hr he)).1
  have hroom := (abs_le.1 e.abs_mantissa_le).2
  have hpow : r * 10 ^ (d.scale + 1) ≤ r * 10 ^ e.scale :=
    mul_le_mul_of_nonneg_left (pow_le_pow_right₀ (by norm_num) hscale) hr
  have hrq : r ≤ q := by
    refine le_of_mul_le_mul_right ?_ (show (0 : ℚ) < 10 ^ (d.scale + 1) by positivity)
    norm_num [mantissaBound] at hroom hfull
    linarith
  obtain rfl := le_antisymm hle hrq
  rw [hd] at he
  exact hlt (Option.some.inj he ▸ le_rfl)

/-- A rounded number that could not keep a place is above all numbers that have it: a tenth of the
bound of mantissas ends in .6 and is rounded up, so ten times its mantissa is past that bound. -/
private theorem lt_of_scale_lt (hr : 0 ≤ r) (he : round? r = some e) (hd : 0 ≤ d.toRat)
    (hscale : e.scale < d.scale) : d.toRat < e.toRat := by
  have hfull := full_of_scale_lt hr he (hscale.trans_le d.scale_le)
  have hnear := (abs_le.1 (mantissa_error hr he)).1
  have hroom := (abs_le.1 d.abs_mantissa_le).2
  have hmantissa : (mantissaBound : ℚ) ≤ 10 * e.mantissa := by
    have hlow : (7922816251426433759354395033 : ℚ) < e.mantissa := by
      rw [pow_succ] at hfull
      norm_num [mantissaBound] at hfull
      linarith
    have hlow : 7922816251426433759354395033 < e.mantissa := by exact_mod_cast hlow
    have hten : (mantissaBound : ℤ) ≤ 10 * e.mantissa := by
      simp only [mantissaBound]
      omega
    exact_mod_cast hten
  refine lt_of_mul_lt_mul_right ?_ (show (0 : ℚ) ≤ 10 ^ (e.scale + 1) by positivity)
  calc d.toRat * 10 ^ (e.scale + 1) ≤ d.toRat * 10 ^ d.scale :=
        mul_le_mul_of_nonneg_left (pow_le_pow_right₀ (by norm_num) hscale) hd
    _ = d.mantissa := d.toRat_mul_pow_scale
    _ < mantissaBound := hroom.trans_lt (by norm_num [mantissaBound])
    _ ≤ 10 * e.mantissa := hmantissa
    _ = e.toRat * 10 ^ (e.scale + 1) := by rw [← toRat_mul_pow_scale, pow_succ]; ring

/-- Rounding keeps the order of numbers, also where they get different scales. -/
theorem toRat_mono_of_round? (hq : 0 ≤ q) (hle : q ≤ r) (hd : round? q = some d)
    (he : round? r = some e) : d.toRat ≤ e.toRat := by
  have hr := hq.trans hle
  rcases (scale_le_of_le hq hle hd he).lt_or_eq with hlt | heq
  · exact (lt_of_scale_lt hr he (round?_nonneg hd hq) hlt).le
  · rw [toRat_eq, toRat_eq, (mantissa_of_round? hq hd).1, (mantissa_of_round? hr he).1, heq,
      Int.cast_natCast, Int.cast_natCast]
    refine div_le_div_of_nonneg_right (Nat.cast_le.2 ?_) (by positivity)
    have hcross : q.num.natAbs * r.den ≤ r.num.natAbs * q.den := by
      have hdens : q * (q.den * r.den) ≤ r * (q.den * r.den) :=
        mul_le_mul_of_nonneg_right hle (by positivity)
      rw [← Nat.cast_le (α := ℚ), Nat.cast_mul, Nat.cast_mul, natAbs_num_eq hq, natAbs_num_eq hr]
      linarith
    refine roundHalfEven_mono q.den_pos r.den_pos ?_
    rw [Nat.mul_right_comm, Nat.mul_right_comm r.num.natAbs]
    exact Nat.mul_le_mul_right _ hcross

private theorem div_pow_eq_of_le (n : ℕ) {k scale : ℕ} (hk : k ≤ scale) :
    (n : ℚ) / 10 ^ k = ((n * 10 ^ (scale - k) : ℕ) : ℚ) / 10 ^ scale := by
  have hpow : (10 : ℚ) ^ scale = 10 ^ k * 10 ^ (scale - k) := by
    rw [← pow_add, Nat.add_sub_cancel' hk]
  rw [hpow, Nat.cast_mul, Nat.cast_pow, Nat.cast_ofNat, mul_div_mul_right _ _ (by positivity)]

/-- Rounding never passes a number of fewer places. -/
theorem le_toRat_of_round? {n k : ℕ} (h : round? q = some d) (hk : k ≤ d.scale)
    (hle : (n : ℚ) / 10 ^ k ≤ q) : (n : ℚ) / 10 ^ k ≤ d.toRat := by
  have hq : 0 ≤ q := le_trans (by positivity) hle
  have hden : (0 : ℚ) < q.den := by exact_mod_cast q.den_pos
  rw [div_pow_eq_of_le n hk] at hle ⊢
  rw [← natAbs_num_div_den hq, div_le_div_iff₀ (by positivity) hden] at hle
  rw [toRat_eq, (mantissa_of_round? hq h).1, Int.cast_natCast]
  refine div_le_div_of_nonneg_right (Nat.cast_le.2 ?_) (by positivity)
  exact le_roundHalfEven q.den_pos (by exact_mod_cast hle)

theorem toRat_le_of_round? {n k : ℕ} (hq : 0 ≤ q) (h : round? q = some d) (hk : k ≤ d.scale)
    (hle : q ≤ (n : ℚ) / 10 ^ k) : d.toRat ≤ (n : ℚ) / 10 ^ k := by
  have hden : (0 : ℚ) < q.den := by exact_mod_cast q.den_pos
  rw [div_pow_eq_of_le n hk] at hle ⊢
  rw [← natAbs_num_div_den hq, div_le_div_iff₀ hden (by positivity)] at hle
  rw [toRat_eq, (mantissa_of_round? hq h).1, Int.cast_natCast]
  refine div_le_div_of_nonneg_right (Nat.cast_le.2 ?_) (by positivity)
  exact roundHalfEven_le q.den_pos (by exact_mod_cast hle)

private theorem exists_fittingScale? {num den : ℕ} (h : num / den < mantissaBound) (limit : ℕ) :
    ∃ s, fittingScale? num den limit = some s := by
  induction limit with
  | zero => exact ⟨0, if_pos h⟩
  | succ limit ih =>
    rw [fittingScale?]
    split
    · exact ⟨_, rfl⟩
    · exact ih

private theorem exists_roundQuotient? {num den : ℕ} (hden : 0 < den)
    (hlt : 2 * num + den < 2 * (mantissaBound * den)) :
    ∃ m s, roundQuotient? num den = some (m, s) ∧ m < mantissaBound ∧ s ≤ maxScale := by
  have hquotient : num / den < mantissaBound := by
    rw [Nat.div_lt_iff_lt_mul hden]
    omega
  obtain ⟨s, hs⟩ := exists_fittingScale? hquotient maxScale
  obtain ⟨hscale, hfit, -⟩ := fittingScale?_eq_some hs
  rw [roundQuotient?, hs, Option.bind_eq_bind, Option.bind_some]
  by_cases hroom : roundHalfEven (num * 10 ^ s) den < mantissaBound
  · exact ⟨_, _, if_pos hroom, hroom, hscale⟩
  · have hzero : s ≠ 0 := by
      rintro rfl
      rw [pow_zero, Nat.mul_one] at hroom
      exact hroom (roundHalfEven_lt hden hlt)
    refine ⟨_, _, (if_neg hroom).trans (if_neg hzero), ?_, (Nat.sub_le _ _).trans hscale⟩
    have hpow : num * 10 ^ s = num * 10 ^ (s - 1) * 10 := by
      rw [Nat.mul_assoc, ← pow_succ, Nat.sub_add_cancel (Nat.pos_of_ne_zero hzero)]
    have hden' : den ≤ mantissaBound * den := Nat.le_mul_of_pos_left den (by decide)
    rw [Nat.div_lt_iff_lt_mul hden, hpow] at hfit
    exact roundHalfEven_lt hden (by omega)

/-- What is nearer to the largest decimal than to the number behind it has a rounded number. -/
private theorem exists_round?_of_abs_lt (hlt : |q| < mantissaBound - 1 / 2) :
    ∃ d, round? q = some d := by
  have hnum : 2 * q.num.natAbs + q.den < 2 * (mantissaBound * q.den) := by
    have hden : (0 : ℚ) < q.den := by exact_mod_cast q.den_pos
    rw [abs_eq_natAbs_div_den, div_lt_iff₀ hden] at hlt
    have hlt : 2 * (q.num.natAbs : ℚ) + q.den < 2 * (mantissaBound * q.den) := by linarith
    exact_mod_cast hlt
  obtain ⟨m, s, hround, hm, hs⟩ := exists_roundQuotient? q.den_pos hnum
  have hfits : (if q.num < 0 then - (m : ℤ) else m).natAbs < mantissaBound ∧ s ≤ 28 := by
    refine ⟨?_, hs⟩
    split_ifs <;> simpa using hm
  refine ⟨⟨_, s, hfits.1, hfits.2⟩, ?_⟩
  simp only [round?, ofQuotient?, hround, Option.bind_some]
  exact dif_pos hfits

private theorem exists_round?_of_abs_le (hle : |q| ≤ (mantissaBound - 1 : ℕ)) :
    ∃ d, round? q = some d :=
  exists_round?_of_abs_lt (hle.trans_lt (by norm_num [mantissaBound]))

/-- The middle between the largest decimal and the number behind it is rounded to the latter, which
is even, and so are all larger numbers. -/
private theorem lt_of_round? (hq : 0 ≤ q) (h : round? q = some d) : q < mantissaBound - 1 / 2 := by
  by_contra hlarge
  have hlarge : (2 * mantissaBound - 1) * q.den ≤ q.num.natAbs * 2 := by
    have hshare := mul_le_mul_of_nonneg_right (not_lt.1 hlarge) (Nat.cast_nonneg q.den)
    have hdouble : ((2 * mantissaBound - 1 : ℕ) : ℚ) = 2 * (mantissaBound - 1 / 2) := by
      norm_num [mantissaBound]
    rw [← natAbs_num_eq hq] at hshare
    rw [← Nat.cast_le (α := ℚ), Nat.cast_mul, Nat.cast_mul, Nat.cast_ofNat, hdouble]
    linarith
  have hplaces : q.num.natAbs * 2 ≤ q.num.natAbs * 10 ^ d.scale * 2 :=
    Nat.mul_le_mul_right 2 (Nat.le_mul_of_pos_right _ (by positivity))
  have hround := roundHalfEven_mono two_pos q.den_pos (hlarge.trans hplaces)
  have heven : roundHalfEven (2 * mantissaBound - 1) 2 = mantissaBound := by decide
  have hfits := d.mantissa_lt
  rw [(mantissa_of_round? hq h).1, Int.natAbs_natCast] at hfits
  omega

theorem exists_round?_iff (hq : 0 ≤ q) :
    (∃ d, round? q = some d) ↔ q < mantissaBound - 1 / 2 := by
  constructor
  · rintro ⟨d, h⟩
    exact lt_of_round? hq h
  · intro hlt
    exact exists_round?_of_abs_lt ((abs_of_nonneg hq).trans_lt hlt)

theorem exists_round? (hq : 0 ≤ q) (hle : q ≤ (mantissaBound - 1 : ℕ)) :
    ∃ d, round? q = some d :=
  exists_round?_of_abs_le ((abs_of_nonneg hq).trans_le hle)

/-- More than half of the last place a decimal can have is not rounded to zero. -/
theorem round?_pos (hlow : 1 / 2 / 10 ^ 28 < q) (h : round? q = some d) : 0 < d.toRat := by
  have hq : 0 < q := lt_trans (by positivity) hlow
  have herror := (abs_le.1 (round?_error h)).1
  rw [abs_of_pos hq] at herror
  rcases le_total (1 / 2) q with hlarge | hsmall
  · rw [max_eq_right hlarge] at herror
    linarith
  · rw [max_eq_left hsmall] at herror
    linarith

/-- Two decimals that are not negative have a difference. -/
theorem exists_sub? {a b : Decimal} (ha : 0 ≤ a.toRat) (hb : 0 ≤ b.toRat) :
    ∃ d, a.sub? b = some d := by
  rw [sub?_eq]
  refine exists_round?_of_abs_le (abs_le.2 ⟨?_, ?_⟩)
  · linarith [(abs_le.1 b.abs_toRat_le).2]
  · linarith [(abs_le.1 a.abs_toRat_le).2]

end Magnitude

private theorem add_one_div_le_of_div_lt {a b c e : ℕ} (hb : 0 < b) (he : 0 < e)
    (h : (a : ℚ) / b < c / e) : (a : ℚ) / b + 1 / (b * e) ≤ c / e := by
  have hB : (0 : ℚ) < b := by exact_mod_cast hb
  have hE : (0 : ℚ) < e := by exact_mod_cast he
  rw [div_lt_div_iff₀ hB hE] at h
  have hnum : (a : ℚ) * e + 1 ≤ c * b := by exact_mod_cast h
  calc (a : ℚ) / b + 1 / (b * e) = (a * e + 1) / (b * e) := by field_simp
    _ ≤ c * b / (b * e) := div_le_div_of_nonneg_right hnum (by positivity)
    _ = c / e := by field_simp

/-- Up to 20000 a gap of a bit more than two units of the 24th place is not rounded away. -/
private theorem round?_lt_of_gap {q g : ℚ} {d : Decimal} (hq : 0 ≤ q) (hg : g ≤ 2 * 10 ^ 4)
    (h : round? q = some d) :
    (q + 1 / (2 ^ 65 * 10 ^ 4) ≤ g → d.toRat < g) ∧
      (g + 1 / (2 ^ 65 * 10 ^ 4) ≤ q → g < d.toRat) := by
  have herror : |d.toRat - q| ≤ (1 / 2 + q) / 10 ^ 28 := by
    refine (round?_error h).trans (div_le_div_of_nonneg_right ?_ (by positivity))
    rw [abs_of_nonneg hq]
    exact max_le_add_of_nonneg (by positivity) hq
  obtain ⟨hdown, hup⟩ := abs_le.1 herror
  constructor
  · intro hgap
    norm_num at hup hgap hg
    linarith
  · intro hgap
    norm_num at hdown hgap hg
    linarith

/-- A fraction with a small denominator is rounded to the side of a number of four places that it is
on, by the error bound, and stays where it is that number, for such a number is exact. -/
theorem compare_of_round? {a b n : ℕ} {d : Decimal} (hb : 0 < b) (hb' : b ≤ 2 ^ 65)
    (hn : n ≤ 2 * 10 ^ 8) (h : round? (a / b) = some d) :
    compare d.toRat (n / 10 ^ 4) = compare ((a : ℚ) / b) (n / 10 ^ 4) := by
  have hq : (0 : ℚ) ≤ a / b := by positivity
  have hg : (n : ℚ) / 10 ^ 4 ≤ 2 * 10 ^ 4 := by
    rw [div_le_iff₀ (by positivity)]
    exact_mod_cast hn
  have hshare : (1 : ℚ) / (2 ^ 65 * 10 ^ 4) ≤ 1 / (b * 10 ^ 4) := by
    have hB : (0 : ℚ) < b := by exact_mod_cast hb
    refine one_div_le_one_div_of_le (by positivity) ?_
    exact_mod_cast Nat.mul_le_mul_right (10 ^ 4) hb'
  obtain ⟨hbelow, habove⟩ := round?_lt_of_gap hq hg h
  rcases lt_trichotomy ((a : ℚ) / b) (n / 10 ^ 4) with hlt | heq | hgt
  · have hgap : (a : ℚ) / b + 1 / (b * 10 ^ 4) ≤ n / 10 ^ 4 := by
      have := add_one_div_le_of_div_lt (c := n) (e := 10 ^ 4) hb (by decide) (by exact_mod_cast hlt)
      exact_mod_cast this
    rw [compare_lt_iff_lt.2 hlt, compare_lt_iff_lt]
    exact hbelow (by linarith)
  · have hscale : 4 ≤ d.scale := by
      have hsmall : (a : ℚ) / b ≤ 10 ^ 5 := by
        rw [heq]
        linarith
      have := le_scale_of_round? hq h hsmall
      simp only [maxScale] at this
      omega
    rw [compare_eq_iff_eq.2 heq, compare_eq_iff_eq]
    exact le_antisymm (toRat_le_of_round? hq h hscale heq.le) (le_toRat_of_round? h hscale heq.ge)
  · have hgap : (n : ℚ) / 10 ^ 4 + 1 / (b * 10 ^ 4) ≤ a / b := by
      have := add_one_div_le_of_div_lt (b := 10 ^ 4) (a := n) (by decide) hb (by exact_mod_cast hgt)
      rw [mul_comm] at this
      exact_mod_cast this
    rw [compare_gt_iff_gt.2 hgt, compare_gt_iff_gt]
    exact habove (by linarith)

end Decimal
end TradeTracker

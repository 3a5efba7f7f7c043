import TradeTracker.Proofs.Decimal.Order
import TradeTracker.Proofs.Decimal.Reading

/-! Decimals with fewer places. Shortening rounds a number to its last place, and normalization
leaves the one decimal for a number that has no zero to spare. -/
namespace TradeTracker.Decimal

section Shortened
variable {d : Decimal} {places : ℕ}

theorem mantissa_nonneg (h : 0 ≤ d.toRat) : 0 ≤ d.mantissa := by
  have hscaled : 0 ≤ d.toRat * 10 ^ d.scale := mul_nonneg h (by positivity)
  rw [toRat_mul_pow_scale] at hscaled
  exact_mod_cast hscaled

private theorem roundHalfEven_le_self (num : ℕ) {den : ℕ} (hden : 0 < den) :
    roundHalfEven num den ≤ num :=
  roundHalfEven_le hden (Nat.le_mul_of_pos_right num hden)

/-- A rule that never rounds above the number itself shortens the mantissa of every decimal that is
not negative. -/
private theorem roundWith_of_nonneg {rule : ℕ → ℕ → ℕ}
    (hrule : ∀ num den, 0 < den → rule num den ≤ num)
    (hd : 0 ≤ d.mantissa) (hplaces : places < d.scale) :
    (d.roundWith rule places).mantissa =
        rule d.mantissa.natAbs (10 ^ (d.scale - places)) ∧
      (d.roundWith rule places).scale = places := by
  have hle : rule d.mantissa.natAbs (10 ^ (d.scale - places)) ≤ d.mantissa.natAbs :=
    hrule _ _ (by positivity)
  have hshort : shortenMantissa rule (d.scale - places) d.mantissa =
      rule d.mantissa.natAbs (10 ^ (d.scale - places)) := by
    rw [shortenMantissa]
    rcases hd.eq_or_lt with hzero | hpos
    · rw [← hzero, Int.natAbs_zero] at hle ⊢
      rw [Nat.le_zero.1 hle, Int.sign_zero, Int.zero_mul, Nat.cast_zero]
    · rw [Int.sign_eq_one_of_pos hpos, Int.one_mul]
  rw [roundWith, if_pos hplaces, hshort,
    ofParts?_of_fits (by rw [Int.natAbs_natCast]; exact hle.trans_lt d.mantissa_lt)
      (hplaces.le.trans d.scale_le), Option.getD_some]
  exact ⟨rfl, rfl⟩

private theorem toRat_mul_pow_places (hd : 0 ≤ d.mantissa) (hplaces : places < d.scale) :
    d.toRat * 10 ^ places = (d.mantissa.natAbs : ℚ) / (10 ^ (d.scale - places) : ℕ) := by
  have hpow : (10 : ℚ) ^ d.scale = 10 ^ (d.scale - places) * 10 ^ places := by
    rw [← pow_add, Nat.sub_add_cancel hplaces.le]
  rw [toRat_eq, hpow, ← Int.cast_natCast d.mantissa.natAbs, Int.natAbs_of_nonneg hd]
  push_cast
  field_simp

/-- Shortening rounds the number itself to its last place, a half going up. -/
theorem roundAway_of_nonneg (hd : 0 ≤ d.mantissa) (hplaces : places < d.scale) :
    (d.roundAway places).mantissa = ⌊d.toRat * 10 ^ places + 1 / 2⌋₊ ∧
      (d.roundAway places).scale = places := by
  rw [toRat_mul_pow_places hd hplaces, ← roundHalfUp_eq_floor _ (by positivity)]
  exact roundWith_of_nonneg (fun num _ hden => roundHalfUp_le num hden) hd hplaces

/-- A number within half of the last place of one that has few enough places is shortened to
that. -/
theorem toRat_roundEven_of_near {n : ℕ} (hd : 0 ≤ d.mantissa)
    (hnear : |d.toRat * 10 ^ places - n| < 1 / 2) :
    (d.roundEven places).toRat = n / 10 ^ places := by
  rcases lt_or_ge places d.scale with hplaces | hplaces
  · obtain ⟨hmantissa, hscale⟩ :=
      roundWith_of_nonneg (fun num _ hden => roundHalfEven_le_self num hden) hd hplaces
    have hround := roundHalfEven_error d.mantissa.natAbs
      (show 0 < 10 ^ (d.scale - places) by positivity)
    rw [← toRat_mul_pow_places hd hplaces] at hround
    rw [roundEven, toRat_eq, hmantissa, hscale, Int.cast_natCast]
    generalize roundHalfEven d.mantissa.natAbs (10 ^ (d.scale - places)) = m at hround ⊢
    have hone : |(m : ℚ) - n| < 1 := by
      rw [abs_lt] at hnear ⊢
      rw [abs_le] at hround
      constructor <;> linarith
    have hone : |(m : ℤ) - n| < 1 := by exact_mod_cast hone
    rw [Int.natCast_inj.1 (sub_eq_zero.1 (Int.abs_lt_one_iff.1 hone))]
  · have hsame : d.roundEven places = d := if_neg (not_lt.2 hplaces)
    have hsteps : d.toRat * 10 ^ places = (d.mantissa * 10 ^ (places - d.scale) : ℤ) := by
      push_cast
      rw [← d.toRat_mul_pow_scale, mul_assoc, ← pow_add, Nat.add_sub_cancel' hplaces]
    rw [hsame, eq_div_iff (by positivity), hsteps]
    rw [hsteps] at hnear
    generalize d.mantissa * 10 ^ (places - d.scale) = m at hnear ⊢
    have hone : |(m : ℚ) - n| < 1 := hnear.trans (by norm_num)
    have hone : |m - n| < 1 := by exact_mod_cast hone
    rw [sub_eq_zero.1 (Int.abs_lt_one_iff.1 hone), Int.cast_natCast]

end Shortened

section Normal

def IsLowest (d : Decimal) : Prop := d.scale = 0 ∨ ¬ (10 : ℤ) ∣ d.mantissa

private theorem trailingZeros_max (digits n : ℕ) :
    trailingZeros digits n = digits ∨ ¬ 10 ^ (trailingZeros digits n + 1) ∣ n := by
  induction digits generalizing n with
  | zero => exact .inl rfl
  | succ digits ih =>
    rw [trailingZeros]
    split
    · rename_i hzero
      rcases ih (n / 10) with hall | hmax
      · exact .inl (congrArg (· + 1) hall)
      · refine .inr fun hdvd => hmax ?_
        rw [pow_succ'] at hdvd
        exact (Nat.dvd_div_iff_mul_dvd (Nat.dvd_of_mod_eq_zero hzero)).2 hdvd
    · rename_i hdigit
      exact .inr fun hdvd => hdigit (Nat.mod_eq_zero_of_dvd (by simpa using hdvd))

private theorem isLowest_normalize (d : Decimal) : d.normalize.IsLowest := by
  obtain ⟨hmantissa, hscale⟩ := d.normalize_parts
  rcases trailingZeros_max d.scale d.mantissa.natAbs with hall | hmax
  · exact .inl (by omega)
  · refine .inr fun hten => hmax ?_
    have hdvd := mul_dvd_mul_right hten (10 ^ trailingZeros d.scale d.mantissa.natAbs)
    rw [hmantissa, ← pow_succ'] at hdvd
    exact Int.natCast_dvd.1 (by exact_mod_cast hdvd)

variable {a b : Decimal}

private theorem IsLowest.scale_le (ha : a.IsLowest) (h : a.toRat = b.toRat) :
    a.scale ≤ b.scale := by
  by_contra hlt
  have hscale := not_le.1 hlt
  have hzeros : a.mantissa = b.mantissa * 10 ^ (a.scale - b.scale) := by
    have hvalue : (a.mantissa : ℚ) = b.mantissa * 10 ^ (a.scale - b.scale) := by
      rw [← a.toRat_mul_pow_scale, ← b.toRat_mul_pow_scale, h, mul_assoc, ← pow_add,
        Nat.add_sub_cancel' hscale.le]
    exact_mod_cast hvalue
  rcases ha with hzero | hten
  · omega
  · refine hten ?_
    rw [hzeros]
    exact Dvd.dvd.mul_left (dvd_pow_self 10 (Nat.sub_pos_of_lt hscale).ne') _

private theorem IsLowest.eq (ha : a.IsLowest) (hb : b.IsLowest) (h : a.toRat = b.toRat) :
    a = b := by
  have hscale := le_antisymm (ha.scale_le h) (hb.scale_le h.symm)
  have hmantissa : (a.mantissa : ℚ) = b.mantissa := by
    rw [← a.toRat_mul_pow_scale, ← b.toRat_mul_pow_scale, h, hscale]
  cases a
  cases b
  simp_all

/-- Decimals for one number have one normal form. -/
theorem normalize_eq_of_toRat_eq (h : a.toRat = b.toRat) : a.normalize = b.normalize :=
  a.isLowest_normalize.eq b.isLowest_normalize (by rw [toRat_normalize, toRat_normalize, h])

end Normal
end TradeTracker.Decimal

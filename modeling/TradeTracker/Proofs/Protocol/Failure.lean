import TradeTracker.Proofs.Decimal.Order
import TradeTracker.Proofs.Protocol.Derivation

/-! Why there are no metrics. Each step of the computation has its own ways to fail, and none of
them is a subtraction that has no result, a stable token without a value at a positive price or a
leveraged value that does not fit. -/
namespace TradeTracker.ProtocolSnapshot
open Decimal

/-- The first step without a result, behind the steps before it that have one. -/
inductive Failure (s : ProtocolSnapshot) : MetricsError → Prop
  | stableDecimals (h : ¬ s.stableDecimals ≤ Amount.maxDecimals) :
    Failure s (.unsupportedDecimals s.stableDecimals)
  | leveragedDecimals (h : ¬ s.leveragedDecimals ≤ Amount.maxDecimals) :
    Failure s (.unsupportedDecimals s.leveragedDecimals)
  | nativePrice (h : s.nativePrice.toRat ≤ 0) : Failure s (.zeroDivisor .nativePrice)
  | stableValue {stableNav : Decimal} (hprice : 0 < s.nativePrice.toRat)
      (hnav : round? (1 / s.nativePrice.toRat) = some stableNav)
      (h : round? (stableNav.toRat * s.stableSupply) = none) : Failure s (.overflow .stableValue)
  | leveragedSupply (h : s.leveragedSupply = 0) : Failure s (.zeroDivisor .leveragedSupply)
  | leveragedNav {stableNav stableValue surplus : Decimal} (hprice : 0 < s.nativePrice.toRat)
      (hnav : round? (1 / s.nativePrice.toRat) = some stableNav)
      (hvalue : round? (stableNav.toRat * s.stableSupply) = some stableValue)
      (hsurplus : round? (s.reserveUnits - stableValue.toRat) = some surplus)
      (h : round? (surplus.toRat / s.leveragedSupply) = none) : Failure s (.overflow .leveragedNav)
  | nonPositiveNav {stableNav stableValue surplus nav : Decimal}
      (hshares : Shares s stableNav stableValue surplus nav) (h : nav.toRat ≤ 0) :
    Failure s (.nonPositiveNav nav)
  | zeroStableValue {stableNav stableValue surplus nav : Decimal}
      (hshares : Shares s stableNav stableValue surplus nav) (hpos : 0 < nav.toRat)
      (h : stableValue.toRat = 0) : Failure s (.zeroDivisor .stableValue)
  | collateralRatio {stableNav stableValue surplus nav : Decimal}
      (hshares : Shares s stableNav stableValue surplus nav) (hpos : 0 < nav.toRat)
      (h : round? (s.reserveUnits / stableValue.toRat) = none) :
    Failure s (.overflow .collateralRatio)
  | zeroLeveragedValue {stableNav stableValue surplus nav value : Decimal}
      (hshares : Shares s stableNav stableValue surplus nav) (hpos : 0 < nav.toRat)
      (hvalue : round? (nav.toRat * s.leveragedSupply) = some value) (h : value.toRat = 0) :
    Failure s (.zeroDivisor .leveragedValue)
  | effectiveLeverage {stableNav stableValue surplus nav value : Decimal}
      (hshares : Shares s stableNav stableValue surplus nav) (hpos : 0 < nav.toRat)
      (hvalue : round? (nav.toRat * s.leveragedSupply) = some value)
      (h : round? (s.reserveUnits / value.toRat) = none) : Failure s (.overflow .effectiveLeverage)

section Steps
variable {e : MetricsError}

private theorem units_eq_error {raw : UInt64} {decimals : UInt8}
    (h : Decimal.units raw decimals = .error e) :
    ¬ decimals ≤ Amount.maxDecimals ∧ e = .unsupportedDecimals decimals := by
  unfold Decimal.units at h
  split at h
  · cases h
  · rename_i hmany
    exact ⟨hmany, (Except.error.inj h).symm⟩

private theorem known_eq_error {quantity : Quantity} {x : Option Decimal} :
    known quantity x = .error e ↔ x = none ∧ e = .overflow quantity := by
  cases x <;> simp [known, eq_comm]

private theorem nonzero_eq_error {divisor : Divisor} {d : Decimal} :
    nonzero divisor d = .error e ↔ d.toRat = 0 ∧ e = .zeroDivisor divisor := by
  unfold nonzero
  by_cases hzero : d.toRat = 0
  · simp [(isZero_iff d).2 hzero, hzero, eq_comm]
  · have hfalse : d.isZero = false := by
      rw [← Bool.not_eq_true, isZero_iff]
      exact hzero
    simp [hfalse, hzero]

/-- The least positive price is `1 / 10 ^ 28`, whose inverse still is a decimal. -/
private theorem exists_stableNav {price : Decimal} (h : 0 < price.toRat) :
    ∃ nav, round? (1 / price.toRat) = some nav := by
  have hleast : 1 / 10 ^ 28 ≤ price.toRat := by
    have hmantissa : 0 < price.mantissa := by
      rwa [← isPositive_iff, isPositive, decide_eq_true_iff] at h
    have hone : (1 : ℚ) ≤ price.mantissa := by exact_mod_cast hmantissa
    rw [toRat_eq]
    refine div_le_div₀ (by linarith) hone (by positivity) ?_
    exact pow_le_pow_right₀ (by norm_num) price.scale_le
  have hroom : (10 : ℚ) ^ 28 ≤ (mantissaBound - 1 : ℕ) := by norm_num [mantissaBound]
  refine exists_round? (by positivity) (le_trans ?_ hroom)
  rw [div_le_iff₀ h]
  linarith

private theorem stableNav_eq_error {price : Decimal} (h : stableNav price = .error e) :
    price.toRat ≤ 0 ∧ e = .zeroDivisor .nativePrice := by
  unfold stableNav at h
  split at h
  · rename_i hpos
    have hpos := (isPositive_iff price).1 hpos
    obtain ⟨nav, hnav⟩ := exists_stableNav hpos
    obtain ⟨hnone, -⟩ := known_eq_error.1 h
    rw [div?_eq _ hpos.ne', toRat_one, hnav] at hnone
    cases hnone
  · rename_i hpos
    rw [isPositive_iff] at hpos
    exact ⟨not_lt.1 hpos, (Except.error.inj h).symm⟩

end Steps

/-- All positive shares together are about the surplus, which the reserve bounds. -/
private theorem Shares.exists_leveragedValue {s : ProtocolSnapshot}
    {stableNav stableValue surplus leveragedNav : Decimal}
    (h : Shares s stableNav stableValue surplus leveragedNav) (hnav : 0 < leveragedNav.toRat) :
    ∃ value, round? (leveragedNav.toRat * s.leveragedSupply) = some value := by
  have hpos := h.surplus_exact_pos hnav
  have hsmall : surplus.toRat ≤ ((10 ^ 11 : ℕ) : ℚ) / 10 ^ 0 := by
    refine toRat_le_of_round? hpos.le h.surplus_eq (Nat.zero_le _) ?_
    norm_num
    linarith [s.reserveUnits_lt, h.stableValue_nonneg]
  have hsurplus := round?_nonneg h.surplus_eq hpos.le
  have hshares := (abs_le.1 (round?_div_error h.leveragedSupply_pos h.leveragedNav_eq)).2
  have hmax : max (s.leveragedSupply / 2) |surplus.toRat| ≤ 2 ^ 63 := by
    rw [abs_of_nonneg hsurplus]
    norm_num at hsmall
    refine max_le ?_ ?_ <;> linarith [s.leveragedSupply_lt]
  have hroom : (2 : ℚ) ^ 64 ≤ (mantissaBound - 1 : ℕ) := by norm_num [mantissaBound]
  refine exists_round? (mul_nonneg hnav.le s.leveragedSupply_nonneg) (le_trans ?_ hroom)
  norm_num at hsmall
  linarith

section Whole
variable {s : ProtocolSnapshot} {e : MetricsError} {reserve supply : Decimal}
  {stableNav stableValue surplus nav : Decimal}

private theorem failure_of_leveragedNav (hreserve : reserve.toRat = s.reserveUnits)
    (hsupply : supply.toRat = s.leveragedSupply) (hprice : 0 < s.nativePrice.toRat)
    (hnav : round? (1 / s.nativePrice.toRat) = some stableNav)
    (hvalue : round? (stableNav.toRat * s.stableSupply) = some stableValue)
    (h : leveragedNav reserve stableValue supply = .error e) : Failure s e := by
  rcases Outcome.bind_eq_error.1 h with hfail | ⟨supply', hsame, hrest⟩
  · obtain ⟨hzero, rfl⟩ := nonzero_eq_error.1 hfail
    exact .leveragedSupply (hsupply ▸ hzero)
  obtain ⟨hne, rfl⟩ := nonzero_eq_ok.1 hsame
  have hnonneg : 0 ≤ reserve.toRat := hreserve ▸ s.reserveUnits_nonneg
  have hnonneg' : 0 ≤ stableValue.toRat := round?_nonneg hvalue
    (mul_nonneg (round?_nonneg hnav (one_div_pos.2 hprice).le) s.stableSupply_nonneg)
  obtain ⟨surplus, hsurplus⟩ := exists_sub? hnonneg hnonneg'
  rw [hsurplus] at hrest
  rw [sub?_eq, hreserve] at hsurplus
  rcases Outcome.bind_eq_error.1 hrest with hfail | ⟨surplus', hsame, hrest⟩
  · cases hfail
  obtain rfl := Except.ok.inj hsame
  rw [div?_eq _ hne, hsupply] at hrest
  rcases Outcome.bind_eq_error.1 hrest with hfail | ⟨nav, hshare, hsign⟩
  · obtain ⟨hnone, rfl⟩ := known_eq_error.1 hfail
    exact .leveragedNav hprice hnav hvalue hsurplus hnone
  split at hsign
  · cases hsign
  · rename_i hpos
    rw [isPositive_iff, not_lt] at hpos
    obtain rfl := Except.error.inj hsign
    exact .nonPositiveNav ⟨hprice, hnav, hvalue, hsupply ▸ hne, hsurplus, known_eq_ok.1 hshare⟩ hpos

private theorem failure_of_collateralRatio (hreserve : reserve.toRat = s.reserveUnits)
    (hshares : Shares s stableNav stableValue surplus nav) (hpos : 0 < nav.toRat)
    (h : collateralRatio reserve stableValue = .error e) : Failure s e := by
  rcases Outcome.bind_eq_error.1 h with hfail | ⟨value, hvalue, hratio⟩
  · obtain ⟨hzero, rfl⟩ := nonzero_eq_error.1 hfail
    exact .zeroStableValue hshares hpos hzero
  · obtain ⟨hne, rfl⟩ := nonzero_eq_ok.1 hvalue
    rw [div?_eq _ hne, hreserve] at hratio
    obtain ⟨hnone, rfl⟩ := known_eq_error.1 hratio
    exact .collateralRatio hshares hpos hnone

private theorem failure_of_effectiveLeverage (hreserve : reserve.toRat = s.reserveUnits)
    (hsupply : supply.toRat = s.leveragedSupply)
    (hshares : Shares s stableNav stableValue surplus nav) (hpos : 0 < nav.toRat)
    (h : effectiveLeverage reserve nav supply = .error e) : Failure s e := by
  obtain ⟨value, hvalue⟩ := hshares.exists_leveragedValue hpos
  rw [effectiveLeverage, mul?_eq, hsupply, hvalue] at h
  rcases Outcome.bind_eq_error.1 h with hfail | ⟨value', hsame, hrest⟩
  · cases hfail
  obtain rfl := Except.ok.inj hsame
  rcases Outcome.bind_eq_error.1 hrest with hfail | ⟨value', hsame, hleverage⟩
  · obtain ⟨hzero, rfl⟩ := nonzero_eq_error.1 hfail
    exact .zeroLeveragedValue hshares hpos hvalue hzero
  · obtain ⟨hne, rfl⟩ := nonzero_eq_ok.1 hsame
    rw [div?_eq _ hne, hreserve] at hleverage
    obtain ⟨hnone, rfl⟩ := known_eq_error.1 hleverage
    exact .effectiveLeverage hshares hpos hvalue hnone

/-- A snapshot has no metrics only because one of the steps has no result. -/
theorem failure_of_metrics (h : s.metrics = .error e) : Failure s e := by
  unfold metrics at h
  rcases Outcome.bind_eq_error.1 h with h | ⟨stableSupply, hS, h⟩
  · obtain ⟨hmany, rfl⟩ := units_eq_error h
    exact .stableDecimals hmany
  rcases Outcome.bind_eq_error.1 h with h | ⟨leveragedSupply, hL, h⟩
  · obtain ⟨hmany, rfl⟩ := units_eq_error h
    exact .leveragedDecimals hmany
  rcases Outcome.bind_eq_error.1 h with h | ⟨reserve, hR, h⟩
  · exact absurd (units_eq_error h).1 (by decide)
  replace hS : stableSupply.toRat = s.stableSupply := (units_eq_ok hS).2
  replace hL : leveragedSupply.toRat = s.leveragedSupply := (units_eq_ok hL).2
  replace hR : reserve.toRat = s.reserveUnits := (units_eq_ok hR).2
  rcases Outcome.bind_eq_error.1 h with h | ⟨stableNav, hnav, h⟩
  · obtain ⟨hprice, rfl⟩ := stableNav_eq_error h
    exact .nativePrice hprice
  obtain ⟨hprice, hnav⟩ := stableNav_eq_ok hnav
  rw [mul?_eq, hS] at h
  rcases Outcome.bind_eq_error.1 h with h | ⟨stableValue, hvalue, h⟩
  · obtain ⟨hnone, rfl⟩ := known_eq_error.1 h
    exact .stableValue hprice hnav hnone
  rw [known_eq_ok] at hvalue
  rcases Outcome.bind_eq_error.1 h with h | ⟨nav, hshare, h⟩
  · exact failure_of_leveragedNav hR hL hprice hnav hvalue h
  obtain ⟨hne, hpos, surplus, hsurplus, hshare⟩ := leveragedNav_eq_ok hshare
  rw [hR] at hsurplus
  rw [hL] at hne hshare
  have hshares : Shares s stableNav stableValue surplus nav :=
    ⟨hprice, hnav, hvalue, hne, hsurplus, hshare⟩
  rcases Outcome.bind_eq_error.1 h with h | ⟨ratio, -, h⟩
  · exact failure_of_collateralRatio hR hshares hpos h
  rcases Outcome.bind_eq_error.1 h with h | ⟨leverage, -, h⟩
  · exact failure_of_effectiveLeverage hR hL hshares hpos h
  · cases h

end Whole
end TradeTracker.ProtocolSnapshot

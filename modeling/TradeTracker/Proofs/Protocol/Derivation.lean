import TradeTracker.Proofs.Decimal.Rounding
import TradeTracker.Proofs.Outcome
import TradeTracker.Protocol.Metrics

/-! The steps behind the metrics of a protocol. Each of them rounds one exact expression in the
results of the steps before it. -/
namespace TradeTracker
open Decimal

namespace ProtocolSnapshot

/-- Stable tokens in existence, in whole units. -/
def stableSupply (s : ProtocolSnapshot) : ℚ := s.rawStableSupply.toNat / 10 ^ s.stableDecimals.toNat

/-- Leveraged tokens in existence, in whole units. -/
def leveragedSupply (s : ProtocolSnapshot) : ℚ :=
  s.rawLeveragedSupply.toNat / 10 ^ s.leveragedDecimals.toNat

/-- The collateral in whole native units. -/
def reserveUnits (s : ProtocolSnapshot) : ℚ := s.reserve.toNat / 10 ^ 9

theorem stableSupply_nonneg (s : ProtocolSnapshot) : 0 ≤ s.stableSupply := by
  unfold stableSupply
  positivity

theorem leveragedSupply_nonneg (s : ProtocolSnapshot) : 0 ≤ s.leveragedSupply := by
  unfold leveragedSupply
  positivity

theorem reserveUnits_nonneg (s : ProtocolSnapshot) : 0 ≤ s.reserveUnits := by
  unfold reserveUnits
  positivity

private theorem units_lt (raw : UInt64) (decimals : Nat) :
    (raw.toNat : ℚ) / 10 ^ decimals < 2 ^ 64 := by
  have hraw : (raw.toNat : ℚ) < 2 ^ 64 := by exact_mod_cast raw.toNat_lt
  exact lt_of_le_of_lt (div_le_self (by positivity) (one_le_pow₀ (by norm_num))) hraw

theorem stableSupply_lt (s : ProtocolSnapshot) : s.stableSupply < 2 ^ 64 := units_lt _ _

theorem leveragedSupply_lt (s : ProtocolSnapshot) : s.leveragedSupply < 2 ^ 64 := units_lt _ _

theorem reserveUnits_lt (s : ProtocolSnapshot) : s.reserveUnits < 2 ^ 64 / 10 ^ 9 := by
  have hraw : (s.reserve.toNat : ℚ) < 2 ^ 64 := by exact_mod_cast s.reserve.toNat_lt
  exact div_lt_div_of_pos_right hraw (by positivity)

/-- The decimals behind the share of one leveraged token, whatever the sign of that share. -/
structure Shares (s : ProtocolSnapshot) (stableNav stableValue surplus leveragedNav : Decimal) :
    Prop where
  nativePrice_pos : 0 < s.nativePrice.toRat
  stableNav_eq : round? (1 / s.nativePrice.toRat) = some stableNav
  stableValue_eq : round? (stableNav.toRat * s.stableSupply) = some stableValue
  leveragedSupply_ne : s.leveragedSupply ≠ 0
  surplus_eq : round? (s.reserveUnits - stableValue.toRat) = some surplus
  leveragedNav_eq : round? (surplus.toRat / s.leveragedSupply) = some leveragedNav

/-- The decimals that a successful computation goes through. -/
structure Derivation (s : ProtocolSnapshot) (m : ProtocolMetrics) where
  stableNav : Decimal
  stableValue : Decimal
  surplus : Decimal
  leveragedNav : Decimal
  collateralRatio : Decimal
  leveragedValue : Decimal
  effectiveLeverage : Decimal
  stableDecimals_le : s.stableDecimals ≤ Amount.maxDecimals
  leveragedDecimals_le : s.leveragedDecimals ≤ Amount.maxDecimals
  nativePrice_pos : 0 < s.nativePrice.toRat
  stableNav_eq : round? (1 / s.nativePrice.toRat) = some stableNav
  stableValue_eq : round? (stableNav.toRat * s.stableSupply) = some stableValue
  leveragedSupply_ne : s.leveragedSupply ≠ 0
  surplus_eq : round? (s.reserveUnits - stableValue.toRat) = some surplus
  leveragedNav_eq : round? (surplus.toRat / s.leveragedSupply) = some leveragedNav
  leveragedNav_pos : 0 < leveragedNav.toRat
  stableValue_ne : stableValue.toRat ≠ 0
  collateralRatio_eq : round? (s.reserveUnits / stableValue.toRat) = some collateralRatio
  leveragedValue_eq : round? (leveragedNav.toRat * s.leveragedSupply) = some leveragedValue
  leveragedValue_ne : leveragedValue.toRat ≠ 0
  effectiveLeverage_eq : round? (s.reserveUnits / leveragedValue.toRat) = some effectiveLeverage
  metrics_eq : m = ⟨stableNav.normalize, leveragedNav.normalize, collateralRatio.normalize,
    effectiveLeverage.normalize, s.nativePrice⟩

theorem units_eq_ok {raw : UInt64} {decimals : UInt8} {d : Decimal}
    (h : Decimal.units raw decimals = .ok d) :
    decimals ≤ Amount.maxDecimals ∧ d.toRat = (raw.toNat : ℚ) / 10 ^ decimals.toNat := by
  unfold Decimal.units at h
  split at h
  · rename_i hle
    obtain rfl := Except.ok.inj h
    exact ⟨hle, toRat_ofRaw _ _ _⟩
  · exact absurd h (by simp)

theorem known_eq_ok {quantity : Quantity} {x : Option Decimal} {d : Decimal} :
    known quantity x = .ok d ↔ x = some d := by
  cases x <;> simp [known]

theorem nonzero_eq_ok {divisor : Divisor} {d d' : Decimal} :
    nonzero divisor d = .ok d' ↔ d.toRat ≠ 0 ∧ d' = d := by
  unfold nonzero
  by_cases hzero : d.toRat = 0
  · simp [(isZero_iff d).2 hzero, hzero]
  · have hfalse : d.isZero = false := by
      rw [← Bool.not_eq_true, isZero_iff]
      exact hzero
    simp [hfalse, hzero, eq_comm]

theorem stableNav_eq_ok {price nav : Decimal} (h : stableNav price = .ok nav) :
    0 < price.toRat ∧ round? (1 / price.toRat) = some nav := by
  unfold stableNav at h
  split at h
  · rename_i hpos
    have hpos := (isPositive_iff price).1 hpos
    rw [known_eq_ok, div?_eq _ hpos.ne', toRat_one] at h
    exact ⟨hpos, h⟩
  · exact absurd h (by simp)

theorem leveragedNav_eq_ok {reserve value supply nav : Decimal}
    (h : leveragedNav reserve value supply = .ok nav) :
    supply.toRat ≠ 0 ∧ 0 < nav.toRat ∧ ∃ surplus,
      round? (reserve.toRat - value.toRat) = some surplus ∧
        round? (surplus.toRat / supply.toRat) = some nav := by
  obtain ⟨supply', hsupply, hrest⟩ := Outcome.bind_eq_ok.1 h
  obtain ⟨hne, rfl⟩ := nonzero_eq_ok.1 hsupply
  obtain ⟨surplus, hsurplus, hrest⟩ := Outcome.bind_eq_ok.1 hrest
  obtain ⟨nav', hnav, hrest⟩ := Outcome.bind_eq_ok.1 hrest
  rw [known_eq_ok, div?_eq _ hne] at hnav
  have hsub : reserve.sub? value = some surplus := by
    cases hsub : reserve.sub? value with
    | none => exact absurd hsurplus (by simp [hsub])
    | some d => simpa [hsub] using hsurplus
  split at hrest
  · rename_i hpos
    obtain rfl := Except.ok.inj hrest
    exact ⟨hne, (isPositive_iff _).1 hpos, surplus, sub?_eq _ _ ▸ hsub, hnav⟩
  · exact absurd hrest (by simp)

private theorem collateralRatio_eq_ok {reserve value ratio : Decimal}
    (h : collateralRatio reserve value = .ok ratio) :
    value.toRat ≠ 0 ∧ round? (reserve.toRat / value.toRat) = some ratio := by
  obtain ⟨value', hvalue, hratio⟩ := Outcome.bind_eq_ok.1 h
  obtain ⟨hne, rfl⟩ := nonzero_eq_ok.1 hvalue
  exact ⟨hne, div?_eq _ hne ▸ known_eq_ok.1 hratio⟩

private theorem effectiveLeverage_eq_ok {reserve nav supply leverage : Decimal}
    (h : effectiveLeverage reserve nav supply = .ok leverage) :
    ∃ value, round? (nav.toRat * supply.toRat) = some value ∧ value.toRat ≠ 0 ∧
      round? (reserve.toRat / value.toRat) = some leverage := by
  obtain ⟨value, hvalue, hrest⟩ := Outcome.bind_eq_ok.1 h
  obtain ⟨value', hnonzero, hleverage⟩ := Outcome.bind_eq_ok.1 hrest
  obtain ⟨hne, rfl⟩ := nonzero_eq_ok.1 hnonzero
  exact ⟨_, mul?_eq _ _ ▸ known_eq_ok.1 hvalue, hne, div?_eq _ hne ▸ known_eq_ok.1 hleverage⟩

/-- Metrics exist only where every step has a result. -/
theorem nonempty_derivation {s : ProtocolSnapshot} {m : ProtocolMetrics}
    (h : s.metrics = .ok m) : Nonempty (Derivation s m) := by
  unfold metrics at h
  obtain ⟨stableSupply, hS, h⟩ := Outcome.bind_eq_ok.1 h
  obtain ⟨leveragedSupply, hL, h⟩ := Outcome.bind_eq_ok.1 h
  obtain ⟨reserve, hR, h⟩ := Outcome.bind_eq_ok.1 h
  obtain ⟨nav, hnav, h⟩ := Outcome.bind_eq_ok.1 h
  obtain ⟨value, hvalue, h⟩ := Outcome.bind_eq_ok.1 h
  obtain ⟨lev, hlev, h⟩ := Outcome.bind_eq_ok.1 h
  obtain ⟨ratio, hratio, h⟩ := Outcome.bind_eq_ok.1 h
  obtain ⟨leverage, hleverage, h⟩ := Outcome.bind_eq_ok.1 h
  obtain ⟨hsd, hS⟩ := units_eq_ok hS
  obtain ⟨hld, hL⟩ := units_eq_ok hL
  obtain ⟨-, hR⟩ := units_eq_ok hR
  change stableSupply.toRat = s.stableSupply at hS
  change leveragedSupply.toRat = s.leveragedSupply at hL
  change reserve.toRat = s.reserveUnits at hR
  obtain ⟨hprice, hnav⟩ := stableNav_eq_ok hnav
  rw [known_eq_ok, mul?_eq, hS] at hvalue
  obtain ⟨hne, hpos, surplus, hsurplus, hlev⟩ := leveragedNav_eq_ok hlev
  obtain ⟨hvne, hratio⟩ := collateralRatio_eq_ok hratio
  obtain ⟨levValue, hlevValue, hlvne, hleverage⟩ := effectiveLeverage_eq_ok hleverage
  rw [hL] at hne hlev hlevValue
  rw [hR] at hsurplus hratio hleverage
  exact ⟨⟨nav, value, surplus, lev, ratio, levValue, leverage, hsd, hld, hprice, hnav, hvalue, hne,
    hsurplus, hlev, hpos, hvne, hratio, hlevValue, hlvne, hleverage, (Except.ok.inj h).symm⟩⟩

namespace Shares
variable {s : ProtocolSnapshot} {stableNav stableValue surplus leveragedNav : Decimal}
  (h : Shares s stableNav stableValue surplus leveragedNav)
include h

theorem leveragedSupply_pos : 0 < s.leveragedSupply :=
  lt_of_le_of_ne s.leveragedSupply_nonneg h.leveragedSupply_ne.symm

theorem stableNav_nonneg : 0 ≤ stableNav.toRat :=
  round?_nonneg h.stableNav_eq (one_div_pos.2 h.nativePrice_pos).le

theorem stableValue_nonneg : 0 ≤ stableValue.toRat :=
  round?_nonneg h.stableValue_eq (mul_nonneg h.stableNav_nonneg s.stableSupply_nonneg)

/-- Where the share is positive the reserve holds something beyond the stable value. -/
theorem surplus_exact_pos (hnav : 0 < leveragedNav.toRat) :
    0 < s.reserveUnits - stableValue.toRat := by
  have hquotient := pos_of_round?_pos h.leveragedNav_eq hnav
  have hsurplus : 0 < surplus.toRat := (div_pos_iff_of_pos_right h.leveragedSupply_pos).1 hquotient
  exact pos_of_round?_pos h.surplus_eq hsurplus

end Shares

theorem Derivation.shares {s : ProtocolSnapshot} {m : ProtocolMetrics} (d : Derivation s m) :
    Shares s d.stableNav d.stableValue d.surplus d.leveragedNav :=
  ⟨d.nativePrice_pos, d.stableNav_eq, d.stableValue_eq, d.leveragedSupply_ne, d.surplus_eq,
    d.leveragedNav_eq⟩

end ProtocolSnapshot
end TradeTracker

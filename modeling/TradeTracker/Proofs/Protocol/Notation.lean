import TradeTracker.Proofs.Decimal.Rounding
import TradeTracker.Proofs.Protocol.Derivation

/-! One state of a protocol in two notations: supplies counted in larger or smaller units, a price
with more or fewer places. Every operation rounds the exact result of the numbers it is given, so
nothing behind the first of them can tell the notations apart. -/
namespace TradeTracker

namespace Decimal

section Congruence
variable {a a' b b' : Decimal}

private theorem isZero_congr (h : a.toRat = a'.toRat) : a.isZero = a'.isZero := by
  rw [Bool.eq_iff_iff, isZero_iff, isZero_iff, h]

private theorem isPositive_congr (h : a.toRat = a'.toRat) : a.isPositive = a'.isPositive := by
  rw [Bool.eq_iff_iff, isPositive_iff, isPositive_iff, h]

private theorem mul?_congr (ha : a.toRat = a'.toRat) (hb : b.toRat = b'.toRat) :
    a.mul? b = a'.mul? b' := by
  rw [mul?_eq, mul?_eq, ha, hb]

/-- There is no quotient by zero, however many places the zero has. -/
private theorem div?_eq_none_of_toRat_eq_zero (a : Decimal) (hb : b.toRat = 0) :
    a.div? b = none := by
  have hzero := (isZero_iff b).2 hb
  rw [isZero, beq_iff_eq] at hzero
  exact if_pos hzero

private theorem div?_congr (ha : a.toRat = a'.toRat) (hb : b.toRat = b'.toRat) :
    a.div? b = a'.div? b' := by
  by_cases hzero : b.toRat = 0
  · rw [div?_eq_none_of_toRat_eq_zero a hzero, div?_eq_none_of_toRat_eq_zero a' (hb ▸ hzero)]
  · rw [div?_eq a hzero, div?_eq a' (hb ▸ hzero), ha, hb]

private theorem exists_units_eq {raw raw' : UInt64} {decimals decimals' : UInt8}
    (hle : decimals ≤ Amount.maxDecimals) (hle' : decimals' ≤ Amount.maxDecimals)
    (h : (raw.toNat : ℚ) / 10 ^ decimals.toNat = raw'.toNat / 10 ^ decimals'.toNat) :
    ∃ d d', units raw decimals = .ok d ∧ units raw' decimals' = .ok d' ∧ d'.toRat = d.toRat := by
  refine ⟨_, _, dif_pos hle, dif_pos hle', ?_⟩
  rw [toRat_ofRaw, toRat_ofRaw, h]

end Congruence

end Decimal

/-- Metrics with the same numbers in the native unit, and the same dollar prices, if any. -/
structure ProtocolMetrics.Agrees (m m' : ProtocolMetrics) : Prop where
  stableNav_eq : m.stableNav = m'.stableNav
  leveragedNav_eq : m.leveragedNav = m'.leveragedNav
  collateralRatio_eq : m.collateralRatio = m'.collateralRatio
  effectiveLeverage_eq : m.effectiveLeverage = m'.effectiveLeverage
  leveragedPrice_eq : m.leveragedPrice = m'.leveragedPrice
  stablePrice_eq : m.stablePrice = m'.stablePrice

/-- The same error. Of a NAV only the number counts. -/
def MetricsError.Agrees : MetricsError → MetricsError → Prop
  | nonPositiveNav nav, nonPositiveNav nav' => nav.toRat = nav'.toRat
  | e, e' => e = e'

private theorem MetricsError.agrees_refl (e : MetricsError) : e.Agrees e := by
  cases e <;> rfl

private theorem ProtocolMetrics.agrees_of_nativePrice (m : ProtocolMetrics) {price : Decimal}
    (h : m.nativePrice.toRat = price.toRat) : m.Agrees { m with nativePrice := price } where
  stableNav_eq := rfl
  leveragedNav_eq := rfl
  collateralRatio_eq := rfl
  effectiveLeverage_eq := rfl
  leveragedPrice_eq := by
    rw [leveragedPrice, leveragedPrice, usdPrice, usdPrice, Decimal.mul?_congr rfl h]
  stablePrice_eq := by
    rw [stablePrice, stablePrice, usdPrice, usdPrice, Decimal.mul?_congr rfl h]

namespace ProtocolSnapshot
open Decimal

/-- Two notations for one reserve, one price and one supply of each token. -/
structure SameValues (s t : ProtocolSnapshot) : Prop where
  stableSupply_eq : s.stableSupply = t.stableSupply
  leveragedSupply_eq : s.leveragedSupply = t.leveragedSupply
  nativePrice_eq : s.nativePrice.toRat = t.nativePrice.toRat
  reserve_eq : s.reserve = t.reserve

structure Supported (s : ProtocolSnapshot) : Prop where
  stableDecimals_le : s.stableDecimals ≤ 18
  leveragedDecimals_le : s.leveragedDecimals ≤ 18

section Steps
variable {price price' supply supply' : Decimal}

private theorem stableNav_congr (h : price.toRat = price'.toRat) :
    stableNav price = stableNav price' := by
  rw [stableNav, stableNav, isPositive_congr h, div?_congr rfl h]

private theorem nonzero_bind_congr {α : Type} {divisor : Divisor} {d d' : Decimal}
    {f f' : Decimal → Except MetricsError α} (h : d.toRat = d'.toRat) (hf : f d = f' d') :
    nonzero divisor d >>= f = nonzero divisor d' >>= f' := by
  unfold nonzero
  rw [isZero_congr h]
  split_ifs
  · rfl
  · exact hf

private theorem leveragedNav_congr (h : supply.toRat = supply'.toRat) (reserve value : Decimal) :
    leveragedNav reserve value supply = leveragedNav reserve value supply' := by
  have hdiv (surplus : Decimal) : surplus.div? supply = surplus.div? supply' := div?_congr rfl h
  refine nonzero_bind_congr h ?_
  simp only [hdiv]

private theorem effectiveLeverage_congr (h : supply.toRat = supply'.toRat) (reserve nav : Decimal) :
    effectiveLeverage reserve nav supply = effectiveLeverage reserve nav supply' := by
  rw [effectiveLeverage, effectiveLeverage, mul?_congr rfl h]

end Steps

section SameValues
variable {s t : ProtocolSnapshot}

/-- The metrics are the same but for the price, which is kept as it is written. -/
private theorem SameValues.metrics_eq (h : SameValues s t) (hs : s.Supported) (ht : t.Supported) :
    t.metrics = s.metrics.map fun m => { m with nativePrice := t.nativePrice } := by
  obtain ⟨stable, stable', hstable, hstable', hsupply⟩ :=
    exists_units_eq hs.stableDecimals_le ht.stableDecimals_le h.stableSupply_eq
  obtain ⟨leveraged, leveraged', hleveraged, hleveraged', hshares⟩ :=
    exists_units_eq hs.leveragedDecimals_le ht.leveragedDecimals_le h.leveragedSupply_eq
  have hreserve : units t.reserve nativeDecimals = units s.reserve nativeDecimals := by
    rw [h.reserve_eq]
  have hmul (nav : Decimal) : nav.mul? stable' = nav.mul? stable := mul?_congr rfl hsupply
  rw [metrics, metrics, hstable, hstable', hleveraged, hleveraged']
  rw [Outcome.ok_bind, Outcome.ok_bind, Outcome.ok_bind, Outcome.ok_bind]
  refine Outcome.bind_eq_map_bind hreserve fun reserve => ?_
  refine Outcome.bind_eq_map_bind (stableNav_congr h.nativePrice_eq.symm) fun nav => ?_
  refine Outcome.bind_eq_map_bind (congrArg _ (hmul nav)) fun value => ?_
  refine Outcome.bind_eq_map_bind (leveragedNav_congr hshares reserve value) fun share => ?_
  refine Outcome.bind_eq_map_bind rfl fun ratio => ?_
  exact Outcome.bind_eq_map_bind (effectiveLeverage_congr hshares reserve share) fun _ => rfl

/-- Two notations for one state have the same metrics, or none for the same reason. -/
theorem metrics_of_sameValues (h : SameValues s t) (hs : s.Supported) (ht : t.Supported) :
    (∃ m m', s.metrics = .ok m ∧ t.metrics = .ok m' ∧ m.Agrees m') ∨
      ∃ e e', s.metrics = .error e ∧ t.metrics = .error e' ∧ e.Agrees e' := by
  have hmetrics := h.metrics_eq hs ht
  cases hm : s.metrics with
  | error e =>
    rw [hm] at hmetrics
    exact .inr ⟨e, e, rfl, hmetrics, e.agrees_refl⟩
  | ok m =>
    rw [hm] at hmetrics
    obtain ⟨d⟩ := nonempty_derivation hm
    have hprice : m.nativePrice.toRat = t.nativePrice.toRat := by
      rw [d.metrics_eq]
      exact h.nativePrice_eq
    exact .inl ⟨m, _, rfl, hmetrics, m.agrees_of_nativePrice hprice⟩

end SameValues

def hundredfold : ProtocolSnapshot :=
  ⟨1703001234, 250000000, 1000000000000, 100000000000, 6, 6, 20000000000000, .ofWhole 100⟩

def hundredfoldPadded : ProtocolSnapshot :=
  { hundredfold with
    rawStableSupply := 10000000000000
    rawLeveragedSupply := 1000000000000
    stableDecimals := 7
    leveragedDecimals := 7
    nativePrice := ⟨10000, 2, by decide, by decide⟩ }

/-- A tenth of a native unit for each leveraged token, at ten dollars. -/
theorem metrics_of_sameValues_padded :
    ∃ m m', hundredfold.metrics = .ok m ∧ hundredfoldPadded.metrics = .ok m' ∧ m.Agrees m' ∧
      m'.leveragedNav = ⟨1, 1, by decide, by decide⟩ ∧ m'.leveragedPrice = .ok (.ofWhole 10) := by
  have hsame : SameValues hundredfold hundredfoldPadded :=
    ⟨by decide +kernel, by decide +kernel, by decide +kernel, rfl⟩
  have hplain : hundredfold.Supported := ⟨by decide, by decide⟩
  have hpadded : hundredfoldPadded.Supported := ⟨by decide, by decide⟩
  have hmetrics : hundredfold.metrics = .ok {
      stableNav := ⟨1, 2, by decide, by decide⟩
      leveragedNav := ⟨1, 1, by decide, by decide⟩
      collateralRatio := .ofWhole 2
      effectiveLeverage := .ofWhole 2
      nativePrice := .ofWhole 100 } := by decide +kernel
  rcases metrics_of_sameValues hsame hplain hpadded with ⟨m, m', hm, hm', hagrees⟩ | ⟨e, e', he, -⟩
  · refine ⟨m, m', hm, hm', hagrees, ?_, ?_⟩
    · rw [← hagrees.leveragedNav_eq]
      cases hmetrics.symm.trans hm
      rfl
    · rw [← hagrees.leveragedPrice_eq]
      cases hmetrics.symm.trans hm
      decide +kernel
  · cases hmetrics.symm.trans he

end ProtocolSnapshot
end TradeTracker

import TradeTracker.Proofs.Protocol.Failure
import TradeTracker.Proofs.Protocol.Reserve

/-! More collateral and less debt never make a protocol look worse. Each of the roundings between
the reserve and the metrics keeps the order of what it is given. -/
namespace TradeTracker.ProtocolSnapshot
open Decimal

/-- `t` has at least the reserve of `s` and at most its stable supply, and is like it in all else
that counts. -/
structure BackedBetter (s t : ProtocolSnapshot) : Prop where
  stableDecimals_eq : t.stableDecimals = s.stableDecimals
  leveragedDecimals_eq : t.leveragedDecimals = s.leveragedDecimals
  rawLeveragedSupply_eq : t.rawLeveragedSupply = s.rawLeveragedSupply
  nativePrice_eq : t.nativePrice.toRat = s.nativePrice.toRat
  reserve_le : s.reserve ≤ t.reserve
  rawStableSupply_le : t.rawStableSupply ≤ s.rawStableSupply

namespace BackedBetter
variable {s t : ProtocolSnapshot} (h : BackedBetter s t)
include h

private theorem leveragedSupply_eq : t.leveragedSupply = s.leveragedSupply := by
  rw [leveragedSupply, leveragedSupply, h.rawLeveragedSupply_eq, h.leveragedDecimals_eq]

private theorem stableSupply_le : t.stableSupply ≤ s.stableSupply := by
  rw [stableSupply, stableSupply, h.stableDecimals_eq]
  refine div_le_div_of_nonneg_right (Nat.cast_le.2 ?_) (by positivity)
  exact UInt64.le_iff_toNat_le.1 h.rawStableSupply_le

private theorem reserveUnits_le : s.reserveUnits ≤ t.reserveUnits := by
  refine div_le_div_of_nonneg_right (Nat.cast_le.2 ?_) (by positivity)
  exact UInt64.le_iff_toNat_le.1 h.reserve_le

section Shares
variable {stableNav stableNav' stableValue stableValue' surplus surplus' nav nav' : Decimal}
  (x : Shares s stableNav stableValue surplus nav)
  (y : Shares t stableNav' stableValue' surplus' nav')
include x y

private theorem stableNav_eq : stableNav' = stableNav := by
  have hnav := y.stableNav_eq
  rw [h.nativePrice_eq, x.stableNav_eq] at hnav
  exact (Option.some.inj hnav).symm

private theorem stableValue_le : stableValue'.toRat ≤ stableValue.toRat := by
  obtain rfl := h.stableNav_eq x y
  refine toRat_mono_of_round? ?_ ?_ y.stableValue_eq x.stableValue_eq
  · exact mul_nonneg y.stableNav_nonneg t.stableSupply_nonneg
  · exact mul_le_mul_of_nonneg_left h.stableSupply_le x.stableNav_nonneg

/-- Where the first share is positive its surplus is, and no rounding passes zero. -/
private theorem leveragedNav_le (hnav : 0 < nav.toRat) : nav.toRat ≤ nav'.toRat := by
  have hpos := (x.surplus_exact_pos hnav).le
  have hsurplus : surplus.toRat ≤ surplus'.toRat := by
    refine toRat_mono_of_round? hpos ?_ x.surplus_eq y.surplus_eq
    linarith [h.reserveUnits_le, h.stableValue_le x y]
  refine toRat_mono_of_round? ?_ ?_ x.leveragedNav_eq y.leveragedNav_eq
  · exact div_nonneg (round?_nonneg x.surplus_eq hpos) s.leveragedSupply_nonneg
  · rw [h.leveragedSupply_eq]
    exact div_le_div_of_nonneg_right hsurplus s.leveragedSupply_nonneg

end Shares

private theorem collateralRatio_le {m m' : ProtocolMetrics} (d : Derivation s m)
    (d' : Derivation t m') :
    d.collateralRatio.toRat ≤ d'.collateralRatio.toRat := by
  have hreserve := s.reserveUnits_nonneg
  have hpos := lt_of_le_of_ne d'.stableValue_nonneg d'.stableValue_ne.symm
  refine toRat_mono_of_round? ?_ ?_ d.collateralRatio_eq d'.collateralRatio_eq
  · exact div_nonneg hreserve d.stableValue_nonneg
  · exact div_le_div₀ (hreserve.trans h.reserveUnits_le) h.reserveUnits_le hpos
      (h.stableValue_le d.shares d'.shares)

end BackedBetter

/-- A better backed protocol has at least the leveraged NAV and the collateral ratio of a worse
backed one that has metrics, and never an error that says it is not covered. -/
theorem metrics_mono {s t : ProtocolSnapshot} {m : ProtocolMetrics} (h : BackedBetter s t)
    (hs : s.metrics = .ok m) :
    (∀ m', t.metrics = .ok m' →
        m.leveragedNav.toRat ≤ m'.leveragedNav.toRat ∧
          m.collateralRatio.toRat ≤ m'.collateralRatio.toRat) ∧
      ∀ nav, t.metrics ≠ .error (.nonPositiveNav nav) := by
  obtain ⟨d⟩ := nonempty_derivation hs
  constructor
  · intro m' ht
    obtain ⟨d'⟩ := nonempty_derivation ht
    rw [d.metrics_eq, d'.metrics_eq]
    simp only [toRat_normalize]
    exact ⟨h.leveragedNav_le d.shares d'.shares d.leveragedNav_pos, h.collateralRatio_le d d'⟩
  · intro nav ht
    cases failure_of_metrics ht with
    | nonPositiveNav hshares hneg =>
      have hle := h.leveragedNav_le d.shares hshares d.leveragedNav_pos
      linarith [d.leveragedNav_pos]

/-- A share of 47 sixths, the largest number of sixths that keeps all 28 places. -/
def roomy : ProtocolSnapshot :=
  ⟨1703001234, 250000000, 1500000, 3000000, 6, 6, 25000000000, .ofWhole 1⟩

def crowded : ProtocolSnapshot := { roomy with rawStableSupply := 1000000, reserve := 25500000000 }

/-- The larger share has one place less. -/
theorem metrics_mono_crowded :
    BackedBetter roomy crowded ∧
      ∃ m m', roomy.metrics = .ok m ∧ crowded.metrics = .ok m' ∧
        m.leveragedNav = ⟨78333333333333333333333333333, 28, by decide, by decide⟩ ∧
        m'.leveragedNav = ⟨8166666666666666666666666667, 27, by decide, by decide⟩ ∧
        m.leveragedNav.toRat ≤ m'.leveragedNav.toRat ∧
        m.collateralRatio.toRat ≤ m'.collateralRatio.toRat := by
  have hbacked : BackedBetter roomy crowded :=
    ⟨rfl, rfl, rfl, rfl, by decide, by decide⟩
  have hroomy : roomy.metrics = .ok {
      stableNav := .one
      leveragedNav := ⟨78333333333333333333333333333, 28, by decide, by decide⟩
      collateralRatio := ⟨16666666666666666666666666667, 27, by decide, by decide⟩
      effectiveLeverage := ⟨10638297872340425531914893617, 28, by decide, by decide⟩
      nativePrice := roomy.nativePrice } := by decide +kernel
  have hcrowded : crowded.metrics = .ok {
      stableNav := .one
      leveragedNav := ⟨8166666666666666666666666667, 27, by decide, by decide⟩
      collateralRatio := ⟨255, 1, by decide, by decide⟩
      effectiveLeverage := ⟨10408163265306122448979591836, 28, by decide, by decide⟩
      nativePrice := roomy.nativePrice } := by decide +kernel
  obtain ⟨hnav, hratio⟩ := (metrics_mono hbacked hroomy).1 _ hcrowded
  exact ⟨hbacked, _, _, hroomy, hcrowded, rfl, rfl, hnav, hratio⟩

end TradeTracker.ProtocolSnapshot

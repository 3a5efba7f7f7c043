import TradeTracker.Proofs.Protocol.Failure
import TradeTracker.Proofs.Protocol.Reserve

/-! The dollar price of the leveraged token. Metrics are there for a protocol however few leveraged
tokens it has, and the dollars that one of these is worth can be more than a decimal holds. -/
namespace TradeTracker
open Decimal

namespace ProtocolMetrics
variable {m : ProtocolMetrics} {nav : Decimal}

/-- A dollar price is a product of two decimals, rounded twice, and fails only where the product
does. -/
theorem exists_usdPrice_iff (h : 0 ≤ nav.toRat * m.nativePrice.toRat) :
    (∃ price, m.usdPrice nav = .ok price) ↔
      nav.toRat * m.nativePrice.toRat < mantissaBound - 1 / 2 := by
  rw [← exists_round?_iff h, usdPrice, mul?_eq]
  cases round? (nav.toRat * m.nativePrice.toRat) with
  | none => exact iff_of_false nofun nofun
  | some product => exact iff_of_true ⟨_, rfl⟩ ⟨product, rfl⟩

theorem usdPrice_eq_error_iff (h : 0 ≤ nav.toRat * m.nativePrice.toRat) :
    m.usdPrice nav = .error .priceOverflow ↔
      mantissaBound - 1 / 2 ≤ nav.toRat * m.nativePrice.toRat := by
  rw [← not_lt, ← exists_round?_iff h, usdPrice, mul?_eq]
  cases round? (nav.toRat * m.nativePrice.toRat) with
  | none => exact iff_of_true rfl nofun
  | some product => exact iff_of_false nofun fun hnone => hnone ⟨product, rfl⟩

end ProtocolMetrics

namespace ProtocolSnapshot
namespace Derivation
variable {s : ProtocolSnapshot} {m : ProtocolMetrics} (d : Derivation s m)
include d

/-- The reserve has nine places, which no surplus is too large for. -/
private theorem surplus_le_reserveUnits : d.surplus.toRat ≤ s.reserveUnits := by
  have hpos := d.surplus_exact_pos.le
  have hle : s.reserveUnits - d.stableValue.toRat ≤ s.reserveUnits :=
    sub_le_self _ d.stableValue_nonneg
  have hscale : maxScale ≤ d.surplus.scale + 11 := by
    refine le_scale_of_round? hpos d.surplus_eq (hle.trans ?_)
    linarith [s.reserveUnits_lt]
  refine toRat_le_of_round? (n := s.reserve.toNat) (k := 9) hpos d.surplus_eq ?_ hle
  simp only [maxScale] at hscale
  omega

theorem leveragedNav_mul_nonneg : 0 ≤ m.leveragedNav.toRat * m.nativePrice.toRat := by
  rw [d.metrics_eq, toRat_normalize]
  exact mul_nonneg d.leveragedNav_pos.le d.nativePrice_pos.le

/-- Rounding makes a share larger by its part in `10 ^ 28` or by half of the last place, which the
largest price turns into four dollars. -/
private theorem leveragedNav_mul_lt
    (h : s.reserveUnits * s.nativePrice.toRat ≤ 79 * 10 ^ 27 * s.leveragedSupply) :
    d.leveragedNav.toRat * s.nativePrice.toRat < mantissaBound - 1 / 2 := by
  have hprice := d.nativePrice_pos.le
  have hshare_nonneg : 0 ≤ d.surplus.toRat / s.leveragedSupply :=
    div_nonneg (round?_nonneg d.surplus_eq d.surplus_exact_pos.le) d.leveragedSupply_pos.le
  have hshare : d.surplus.toRat / s.leveragedSupply * s.nativePrice.toRat ≤ 79 * 10 ^ 27 := by
    rw [div_mul_eq_mul_div, div_le_iff₀ d.leveragedSupply_pos]
    exact (mul_le_mul_of_nonneg_right d.surplus_le_reserveUnits hprice).trans h
  have herror := (abs_le.1 (round?_error d.leveragedNav_eq)).2
  rw [abs_of_nonneg hshare_nonneg] at herror
  generalize d.surplus.toRat / s.leveragedSupply = share at *
  have hmax : max (1 / 2) share ≤ 1 / 2 + share := max_le_add_of_nonneg (by norm_num) hshare_nonneg
  have hnav : d.leveragedNav.toRat ≤ share + (1 / 2 + share) / 10 ^ 28 := by
    linarith [div_le_div_of_nonneg_right hmax (show (0 : ℚ) ≤ 10 ^ 28 by positivity)]
  have hworth := mul_le_mul_of_nonneg_right hnav hprice
  have hlargest := (abs_le.1 s.nativePrice.abs_toRat_le).2
  norm_num [mantissaBound] at hlargest ⊢
  linarith

end Derivation

/-- The leveraged token of a protocol with metrics has a dollar price exactly where its value in
dollars is nearer to a decimal than to a larger number, and the computation breaks off where it is
not. A reserve of no more than `7.9 * 10 ^ 28` dollars for each leveraged token is small enough. -/
theorem leveragedPrice_of_metrics {s : ProtocolSnapshot} {m : ProtocolMetrics}
    (h : s.metrics = .ok m) :
    ((∃ price, m.leveragedPrice = .ok price) ↔
        m.leveragedNav.toRat * m.nativePrice.toRat < mantissaBound - 1 / 2) ∧
      (m.leveragedPrice = .error .priceOverflow ↔
        mantissaBound - 1 / 2 ≤ m.leveragedNav.toRat * m.nativePrice.toRat) ∧
      (s.reserveUnits * s.nativePrice.toRat ≤ 79 * 10 ^ 27 * s.leveragedSupply →
        ∃ price, m.leveragedPrice = .ok price) := by
  obtain ⟨d⟩ := nonempty_derivation h
  have hiff := ProtocolMetrics.exists_usdPrice_iff d.leveragedNav_mul_nonneg
  refine ⟨hiff, ProtocolMetrics.usdPrice_eq_error_iff d.leveragedNav_mul_nonneg, fun hsmall => ?_⟩
  refine hiff.2 ?_
  rw [d.metrics_eq, toRat_normalize]
  exact d.leveragedNav_mul_lt hsmall

/-- The least part of one leveraged token against nearly six thousand million native units. -/
def brimming : ProtocolSnapshot :=
  ⟨1703001234, 250000000, 9456049664, 1, 18, 18, 5868752778834395378,
    ⟨135000, 4, by decide, by decide⟩⟩

def halved : ProtocolSnapshot := { brimming with rawLeveragedSupply := 2 }

/-- The value of the first token is 45 hundredths above the largest decimal, which becomes its
price. The reserve for each of the second ones is small enough for any rounding. -/
theorem leveragedPrice_of_metrics_brimming :
    (∃ m, brimming.metrics = .ok m ∧
        m.leveragedNav.toRat * m.nativePrice.toRat = mantissaBound - 55 / 100 ∧
        (∃ price, m.leveragedPrice = .ok price) ∧
        m.leveragedPrice = .ok ⟨79228162514264337593543950335, 0, by decide, by decide⟩) ∧
      ∃ m, halved.metrics = .ok m ∧
        halved.reserveUnits * halved.nativePrice.toRat ≤ 79 * 10 ^ 27 * halved.leveragedSupply ∧
        ∃ price, m.leveragedPrice = .ok price := by
  have hbrimming : brimming.metrics = .ok {
      stableNav := ⟨740740740740740740740740741, 28, by decide, by decide⟩
      leveragedNav := ⟨58687527788343953772995518767, 1, by decide, by decide⟩
      collateralRatio := ⟨8378568781834217066818462426, 9, by decide, by decide⟩
      effectiveLeverage := ⟨10000000000000000001193521264, 28, by decide, by decide⟩
      nativePrice := brimming.nativePrice } := by decide +kernel
  have hhalved : halved.metrics = .ok {
      stableNav := ⟨740740740740740740740740741, 28, by decide, by decide⟩
      leveragedNav := ⟨29343763894171976886497759384, 1, by decide, by decide⟩
      collateralRatio := ⟨8378568781834217066818462426, 9, by decide, by decide⟩
      effectiveLeverage := ⟨10000000000000000001193521264, 28, by decide, by decide⟩
      nativePrice := halved.nativePrice } := by decide +kernel
  have hsmall : halved.reserveUnits * halved.nativePrice.toRat ≤
      79 * 10 ^ 27 * halved.leveragedSupply := by decide +kernel
  obtain ⟨hpriced, -⟩ := leveragedPrice_of_metrics hbrimming
  obtain ⟨-, -, hroom⟩ := leveragedPrice_of_metrics hhalved
  refine ⟨⟨_, hbrimming, ?_, hpriced.2 ?_, ?_⟩, _, hhalved, hsmall, hroom hsmall⟩
  · decide +kernel
  · decide +kernel
  · decide +kernel

/-- A million stable tokens and the least part of one leveraged token against a thousand million
native units at a hundred dollars. -/
def scarce : ProtocolSnapshot :=
  ⟨1703001234, 250000000, 1000000000000, 1, 6, 18, 1000000000000000000, .ofWhole 100⟩

/-- There are metrics, but the value of the leveraged token is too large for a price. -/
theorem leveragedPrice_overflow_scarce :
    ∃ m, scarce.metrics = .ok m ∧
      m.leveragedNav.toRat * m.nativePrice.toRat = 99999 * 10 ^ 24 ∧
      m.leveragedPrice = .error .priceOverflow := by
  have hscarce : scarce.metrics = .ok {
      stableNav := ⟨1, 2, by decide, by decide⟩
      leveragedNav := ⟨999990000000000000000000000, 0, by decide, by decide⟩
      collateralRatio := .ofWhole 100000
      effectiveLeverage := ⟨10000100001000010000100001, 25, by decide, by decide⟩
      nativePrice := scarce.nativePrice } := by decide +kernel
  refine ⟨_, hscarce, ?_, ?_⟩
  · decide +kernel
  · decide +kernel

end ProtocolSnapshot
end TradeTracker

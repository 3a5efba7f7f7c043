import TradeTracker.Proofs.Decimal.Shortening
import TradeTracker.Proofs.Protocol.Derivation

/-! The dollar price of the stable token. It is the price of the native unit times the rounded
inverse of that price, which is one dollar but for a rounding that the price is multiplied into. -/
namespace TradeTracker
open Decimal

namespace Decimal

/-- A number nearer to one than half of the last place is one without zeros to spare. -/
private theorem normalize_roundEven_eq_one {d : Decimal} {places : ℕ} (hd : 0 ≤ d.toRat)
    (hnear : |d.toRat - 1| < 1 / 2 / 10 ^ places) : (d.roundEven places).normalize = one := by
  have hpow : (0 : ℚ) < 10 ^ places := by positivity
  have hvalue : (d.roundEven places).toRat = (10 ^ places : ℕ) / 10 ^ places := by
    refine toRat_roundEven_of_near (mantissa_nonneg hd) ?_
    have hscaled : d.toRat * 10 ^ places - (10 ^ places : ℕ) = (d.toRat - 1) * 10 ^ places := by
      push_cast
      ring
    rwa [hscaled, abs_mul, abs_of_pos hpow, ← lt_div_iff₀ hpow]
  have hone : (d.roundEven places).toRat = one.toRat := by
    rw [hvalue, toRat_one]
    push_cast
    exact div_self hpow.ne'
  rw [normalize_eq_of_toRat_eq hone]
  decide

end Decimal

namespace ProtocolSnapshot

section Dollar
variable {price nav : Decimal} (hprice : 0 < price.toRat)
  (hnav : round? (1 / price.toRat) = some nav)
include hprice hnav

/-- A price times its rounded inverse is one, up to the price's share of half of the last place. -/
private theorem dollar_error :
    |nav.toRat * price.toRat - 1| ≤ max (price.toRat / 2) 1 / 10 ^ 28 := by
  have herror := round?_div_error hprice hnav
  rwa [abs_one] at herror

private theorem dollar_le : nav.toRat * price.toRat ≤ 5 := by
  have herror := (abs_le.1 (dollar_error hprice hnav)).2
  have hlargest := (abs_le.1 price.abs_toRat_le).2
  have hmax : max (price.toRat / 2) 1 ≤ 4 * 10 ^ 28 := by
    norm_num [mantissaBound] at hlargest
    exact max_le (by linarith) (by norm_num)
  have hshare := div_le_div_of_nonneg_right hmax (show (0 : ℚ) ≤ 10 ^ 28 by positivity)
  linarith

private theorem dollar_nonneg : 0 ≤ nav.toRat * price.toRat :=
  mul_nonneg (round?_nonneg hnav (one_div_pos.2 hprice).le) hprice.le

private theorem exists_dollar : ∃ dollar, round? (nav.toRat * price.toRat) = some dollar := by
  have hroom : (5 : ℚ) ≤ (mantissaBound - 1 : ℕ) := by norm_num [mantissaBound]
  exact exists_round? (dollar_nonneg hprice hnav) ((dollar_le hprice hnav).trans hroom)

/-- Below `10 ^ 15` dollars the two roundings are too small for the twelfth place to show them. -/
private theorem dollar_near {dollar : Decimal} (hlt : price.toRat < 10 ^ 15)
    (h : round? (nav.toRat * price.toRat) = some dollar) :
    |dollar.toRat - 1| < 1 / 2 / 10 ^ ProtocolMetrics.pricePlaces := by
  have hexact := abs_le.1 (dollar_error hprice hnav)
  have hmax : max (price.toRat / 2) 1 ≤ 10 ^ 15 / 2 :=
    max_le (by linarith) (by norm_num)
  have hshare := div_le_div_of_nonneg_right hmax (show (0 : ℚ) ≤ 10 ^ 28 by positivity)
  have hround := abs_le.1 (round?_error h)
  have hmax' : max (1 / 2) |nav.toRat * price.toRat| ≤ 5 := by
    rw [abs_of_nonneg (dollar_nonneg hprice hnav)]
    exact max_le (by norm_num) (dollar_le hprice hnav)
  have hshare' := div_le_div_of_nonneg_right hmax' (show (0 : ℚ) ≤ 10 ^ 28 by positivity)
  rw [ProtocolMetrics.pricePlaces, abs_lt]
  constructor <;> linarith

end Dollar

theorem Derivation.exists_stablePrice {s : ProtocolSnapshot} {m : ProtocolMetrics}
    (d : Derivation s m) :
    ∃ dollar, round? (d.stableNav.toRat * s.nativePrice.toRat) = some dollar ∧
      m.stablePrice = .ok (dollar.roundEven ProtocolMetrics.pricePlaces).normalize := by
  obtain ⟨dollar, hdollar⟩ := exists_dollar d.nativePrice_pos d.stableNav_eq
  refine ⟨dollar, hdollar, ?_⟩
  rw [d.metrics_eq, ProtocolMetrics.stablePrice, ProtocolMetrics.usdPrice, mul?_eq,
    toRat_normalize, hdollar, Option.elim_some]

/-- The stable token of a protocol with metrics always has a dollar price, and below `10 ^ 15`
dollars for the native unit it is worth exactly one. -/
theorem stablePrice_of_metrics {s : ProtocolSnapshot} {m : ProtocolMetrics}
    (h : s.metrics = .ok m) :
    (∃ price, m.stablePrice = .ok price) ∧
      (s.nativePrice.toRat < 10 ^ 15 → m.stablePrice = .ok .one) := by
  obtain ⟨d⟩ := nonempty_derivation h
  obtain ⟨dollar, hdollar, hprice⟩ := d.exists_stablePrice
  refine ⟨⟨_, hprice⟩, fun hlt => ?_⟩
  have hnonneg := round?_nonneg hdollar (dollar_nonneg d.nativePrice_pos d.stableNav_eq)
  rw [hprice, normalize_roundEven_eq_one hnonneg
    (dollar_near d.nativePrice_pos d.stableNav_eq hlt hdollar)]

/-- At seven hundred million million dollars the inverse keeps fourteen digits. -/
def lofty : ProtocolSnapshot :=
  ⟨1703001234, 250000000, 2100000, 1000000, 6, 6, 7000000000, .ofWhole 700000000000000⟩

/-- The product is 0.9999999999999800, and shown as one dollar. -/
theorem stablePrice_of_metrics_lofty :
    lofty.nativePrice.toRat < 10 ^ 15 ∧ ∃ m, lofty.metrics = .ok m ∧
      m.stableNav.toRat * m.nativePrice.toRat = 1 - 2 / 10 ^ 14 ∧ m.stablePrice = .ok .one := by
  have hlt : lofty.nativePrice.toRat < 10 ^ 15 := by decide +kernel
  have h : lofty.metrics = .ok {
      stableNav := ⟨14285714285714, 28, by decide, by decide⟩
      leveragedNav := ⟨69999999999999970000000000001, 28, by decide, by decide⟩
      collateralRatio := ⟨23333333333334111111111111137, 13, by decide, by decide⟩
      effectiveLeverage := ⟨10000000000000004285714285714, 28, by decide, by decide⟩
      nativePrice := lofty.nativePrice } := by decide +kernel
  exact ⟨hlt, _, h, by decide +kernel, (stablePrice_of_metrics h).2 hlt⟩

end ProtocolSnapshot
end TradeTracker

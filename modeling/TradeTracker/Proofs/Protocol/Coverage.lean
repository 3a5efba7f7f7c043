import TradeTracker.Proofs.Decimal.Order
import TradeTracker.Proofs.Protocol.Reserve

/-! Metrics for a reserve that does not cover the stable supply. The supply is valued at the rounded
inverse of the price, and an inverse that was rounded down can bring the value below the reserve,
though by less than a lamport. -/
namespace TradeTracker.ProtocolSnapshot
open Decimal

/-- At its price in dollars the reserve is not worth more than the stable supply. -/
def Uncovered (s : ProtocolSnapshot) : Prop :=
  s.reserveUnits * s.nativePrice.toRat ≤ s.stableSupply

/-- The reserve is not worth more than the stable supply even with a lamport added to it. -/
def ShortOfLamport (s : ProtocolSnapshot) : Prop :=
  (s.reserveUnits + 1 / 10 ^ 9) * s.nativePrice.toRat ≤ s.stableSupply

private theorem stableNav_of_round? {price nav : Decimal} (hprice : 0 < price.toRat)
    (h : round? (1 / price.toRat) = some nav) : stableNav price = .ok nav := by
  rw [stableNav, if_pos ((isPositive_iff price).2 hprice), known_eq_ok, div?_eq _ hprice.ne',
    toRat_one]
  exact h

namespace Derivation
variable {s : ProtocolSnapshot} {m : ProtocolMetrics} (d : Derivation s m)
include d

/-- The exact product of the rounded inverse and the supply is below the reserve too: the reserve
has nine places, and a product that reaches it is not rounded below it. -/
private theorem exactValue_lt : d.stableNav.toRat * s.stableSupply < s.reserveUnits := by
  have hsmall : d.stableNav.toRat * s.stableSupply ≤ 10 ^ 11 := by
    have herror := abs_le.1 d.stableValue_error
    have hlt := d.stableValue_lt
    linarith
  have hscale := le_scale_of_round? (e := 11) d.stableValue_exact_nonneg d.stableValue_eq hsmall
  by_contra hge
  have hreached : s.reserveUnits ≤ d.stableValue.toRat := by
    refine le_toRat_of_round? (n := s.reserve.toNat) (k := 9) d.stableValue_eq ?_ (not_lt.1 hge)
    simp only [maxScale] at hscale
    omega
  linarith [d.surplus_exact_pos]

/-- A value of the stable supply that rounding brought below the reserve is off by less than a
lamport: of fewer than `2 ^ 64` tokens each is off by half of the last place. -/
private theorem stableSupply_div_lt :
    s.stableSupply / s.nativePrice.toRat < s.reserveUnits + 1 / 10 ^ 9 := by
  have hprice := d.nativePrice_pos
  have hinverse : 0 ≤ 1 / s.nativePrice.toRat := (one_div_pos.2 hprice).le
  have hvalue := d.exactValue_lt
  have hsupply := s.stableSupply_nonneg
  have hmax := s.stableSupply_lt
  have hreserve := s.reserveUnits_lt
  have herror := round?_error d.stableNav_eq
  rw [abs_of_nonneg hinverse, abs_le] at herror
  have hexact : s.stableSupply / s.nativePrice.toRat = 1 / s.nativePrice.toRat * s.stableSupply :=
    (one_div_mul_eq_div _ _).symm
  rw [hexact]
  generalize 1 / s.nativePrice.toRat = inverse at *
  rcases le_total inverse (1 / 2) with hsmall | hlarge
  · rw [max_eq_left hsmall] at herror
    have hshare := mul_le_mul_of_nonneg_right herror.1 hsupply
    linarith
  · rw [max_eq_right hlarge] at herror
    have hshare := mul_le_mul_of_nonneg_right herror.1 hsupply
    linarith

end Derivation

/-- An uncovered protocol has no metrics where the stable supply at the rounded inverse of the price
is worth the reserve, or where a lamport more would not cover it. -/
theorem metrics_ne_ok_of_uncovered {s : ProtocolSnapshot} (hprice : 0 < s.nativePrice.toRat)
    (huncovered : s.Uncovered)
    (hseen : (∀ nav, stableNav s.nativePrice = .ok nav →
        1 / s.nativePrice.toRat ≤ nav.toRat ∨ s.reserveUnits ≤ nav.toRat * s.stableSupply) ∨
      s.ShortOfLamport) (m : ProtocolMetrics) : s.metrics ≠ .ok m := by
  intro h
  obtain ⟨d⟩ := nonempty_derivation h
  rcases hseen with hnav | hshort
  · have hvalue := d.exactValue_lt
    rcases hnav _ (stableNav_of_round? hprice d.stableNav_eq) with hup | hcovered
    · have hworth : s.reserveUnits ≤ 1 / s.nativePrice.toRat * s.stableSupply := by
        rw [one_div_mul_eq_div, le_div_iff₀ hprice]
        exact huncovered
      linarith [mul_le_mul_of_nonneg_right hup s.stableSupply_nonneg]
    · exact absurd hvalue (not_lt.2 hcovered)
  · have hlamport := d.stableSupply_div_lt
    rw [div_lt_iff₀ hprice] at hlamport
    exact absurd hlamport (not_lt.2 hshort)

/-- Seven million stable tokens against a million native units at seven dollars, whose inverse is
rounded up. -/
def valuedUp : ProtocolSnapshot :=
  ⟨1703001234, 250000000, 7000000000000, 100000000000, 6, 6, 1000000000000000, .ofWhole 7⟩

theorem metrics_ne_ok_of_uncovered_valuedUp :
    0 < valuedUp.nativePrice.toRat ∧ valuedUp.Uncovered ∧
      (∀ nav, stableNav valuedUp.nativePrice = .ok nav →
        1 / valuedUp.nativePrice.toRat ≤ nav.toRat) ∧
      ∀ m, valuedUp.metrics ≠ .ok m := by
  have hprice : 0 < valuedUp.nativePrice.toRat := by decide +kernel
  have huncovered : valuedUp.Uncovered := by
    unfold Uncovered
    decide +kernel
  have hnav : stableNav valuedUp.nativePrice =
      .ok ⟨1428571428571428571428571429, 28, by decide, by decide⟩ := by decide +kernel
  have hup (nav : Decimal) (h : stableNav valuedUp.nativePrice = .ok nav) :
      1 / valuedUp.nativePrice.toRat ≤ nav.toRat := by
    obtain rfl := Except.ok.inj (hnav.symm.trans h)
    decide +kernel
  exact ⟨hprice, huncovered, hup,
    metrics_ne_ok_of_uncovered hprice huncovered (.inl fun nav h => .inl (hup nav h))⟩

/-- Three million stable tokens against a million native units at three dollars, whose inverse is
rounded down. -/
def valuedDown : ProtocolSnapshot :=
  ⟨1703001234, 250000000, 3000000000000, 100000000000, 6, 6, 1000000000000000, .ofWhole 3⟩

/-- The reserve and the stable supply are worth the same, and the leveraged token has a value. -/
theorem metrics_of_uncovered_valuedDown :
    0 < valuedDown.nativePrice.toRat ∧ valuedDown.Uncovered ∧
      valuedDown.metrics = .ok {
        stableNav := ⟨3333333333333333333333333333, 28, by decide, by decide⟩
        leveragedNav := ⟨1, 27, by decide, by decide⟩
        collateralRatio := ⟨10000000000000000000000000001, 28, by decide, by decide⟩
        effectiveLeverage := ⟨10000000000000000000000000000, 0, by decide, by decide⟩
        nativePrice := valuedDown.nativePrice } := by
  refine ⟨?_, ?_, ?_⟩
  · decide +kernel
  · unfold Uncovered
    decide +kernel
  · decide +kernel

end TradeTracker.ProtocolSnapshot

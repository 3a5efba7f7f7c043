import TradeTracker.Proofs.Protocol.Failure
import TradeTracker.Proofs.Protocol.Reserve

/-! What every snapshot gets: metrics that make sense, or an error of a step that can fail. Zero
does not come out of any rounding whose result is reported. -/
namespace TradeTracker
open Decimal

/-- An error of a step that is not checked and breaks the computation off. -/
def MetricsError.IsPanic : MetricsError → Prop
  | surplusOverflow | priceOverflow => True
  | _ => False

structure ProtocolMetrics.Sane (m : ProtocolMetrics) : Prop where
  stableNav_pos : 0 < m.stableNav.toRat
  leveragedNav_pos : 0 < m.leveragedNav.toRat
  effectiveLeverage_pos : 0 < m.effectiveLeverage.toRat
  one_le_collateralRatio : 1 ≤ m.collateralRatio.toRat

namespace ProtocolSnapshot
namespace Derivation
variable {s : ProtocolSnapshot} {m : ProtocolMetrics} (d : Derivation s m)
include d

private theorem stableValue_pos : 0 < d.stableValue.toRat :=
  lt_of_le_of_ne d.stableValue_nonneg d.stableValue_ne.symm

private theorem stableNav_pos : 0 < d.stableNav.toRat := by
  have hexact := pos_of_round?_pos d.stableValue_eq d.stableValue_pos
  exact pos_of_mul_pos_left hexact s.stableSupply_nonneg

private theorem reserveUnits_pos : 0 < s.reserveUnits := by
  linarith [d.surplus_exact_pos, d.stableValue_nonneg]

private theorem lamport_le_reserveUnits : 1 / 10 ^ 9 ≤ s.reserveUnits := by
  have hpos := d.reserveUnits_pos
  rw [reserveUnits, div_pos_iff_of_pos_right (by positivity), Nat.cast_pos] at hpos
  rw [reserveUnits]
  exact div_le_div_of_nonneg_right (by exact_mod_cast hpos) (by positivity)

private theorem one_le_collateralRatio : 1 ≤ d.collateralRatio.toRat := by
  have hratio : ((1 : ℕ) : ℚ) / 10 ^ 0 ≤ s.reserveUnits / d.stableValue.toRat := by
    rw [pow_zero, div_one, Nat.cast_one, le_div_iff₀ d.stableValue_pos, one_mul]
    linarith [d.surplus_exact_pos]
  have hone := le_toRat_of_round? d.collateralRatio_eq (Nat.zero_le _) hratio
  rwa [pow_zero, div_one, Nat.cast_one] at hone

private theorem leveragedValue_pos : 0 < d.leveragedValue.toRat := by
  have hexact : 0 ≤ d.leveragedNav.toRat * s.leveragedSupply :=
    mul_nonneg d.leveragedNav_pos.le s.leveragedSupply_nonneg
  exact lt_of_le_of_ne (round?_nonneg d.leveragedValue_eq hexact) d.leveragedValue_ne.symm

/-- Roundings lift the leveraged value above the reserve by less than a lamport. -/
private theorem leveragedValue_le : d.leveragedValue.toRat ≤ 2 * s.reserveUnits := by
  have hlamport := d.lamport_le_reserveUnits
  have hreserve := s.reserveUnits_lt
  have hsurplus := (abs_le.1 d.surplus_error).2
  have hshares := (abs_le.1 d.leveragedValue_error).2
  have hexact : d.leveragedNav.toRat * s.leveragedSupply ≤ s.reserveUnits + 95 / 10 ^ 11 := by
    linarith [d.stableValue_nonneg]
  have hnonneg : 0 ≤ d.leveragedNav.toRat * s.leveragedSupply :=
    mul_nonneg d.leveragedNav_pos.le s.leveragedSupply_nonneg
  have herror := (abs_le.1 (round?_error d.leveragedValue_eq)).2
  have hmax : max (1 / 2) |d.leveragedNav.toRat * s.leveragedSupply| ≤ 10 ^ 11 := by
    rw [abs_of_nonneg hnonneg]
    exact max_le (by norm_num) (by linarith)
  have hplace := div_le_div_of_nonneg_right hmax (show (0 : ℚ) ≤ 10 ^ 28 by positivity)
  linarith

private theorem effectiveLeverage_pos : 0 < d.effectiveLeverage.toRat := by
  refine round?_pos ?_ d.effectiveLeverage_eq
  have hhalf : 1 / 2 ≤ s.reserveUnits / d.leveragedValue.toRat := by
    rw [le_div_iff₀ d.leveragedValue_pos]
    linarith [d.leveragedValue_le]
  exact lt_of_lt_of_le (by norm_num) hhalf

private theorem sane : m.Sane := by
  rw [d.metrics_eq]
  constructor
  · rw [toRat_normalize]
    exact d.stableNav_pos
  · rw [toRat_normalize]
    exact d.leveragedNav_pos
  · rw [toRat_normalize]
    exact d.effectiveLeverage_pos
  · rw [toRat_normalize]
    exact d.one_le_collateralRatio

end Derivation

/-- No snapshot breaks the computation off, neither the stable NAV nor the leveraged value
overflows, and metrics that come out of it are sane after all roundings. -/
theorem metrics_safe (s : ProtocolSnapshot) :
    (∀ e, s.metrics = .error e →
        ¬ e.IsPanic ∧ e ≠ .overflow .stableNav ∧ e ≠ .overflow .leveragedValue) ∧
      ∀ m, s.metrics = .ok m → m.Sane := by
  constructor
  · intro e h
    cases failure_of_metrics h <;> exact ⟨id, nofun, nofun⟩
  · intro m h
    obtain ⟨d⟩ := nonempty_derivation h
    exact d.sane

/-- The reserve exceeds the stable value in the last place only. -/
def thinnest : ProtocolSnapshot :=
  ⟨1703001234, 250000000, 2100000, 1000000, 6, 6, 7000000000, ⟨300, 3, by decide, by decide⟩⟩

def steepest : ProtocolSnapshot :=
  { thinnest with rawLeveragedSupply := 1, nativePrice := ⟨5, 26, by decide, by decide⟩ }

/-- No smaller ratio and hardly a larger leverage can be reported, and of a huge deficit only the
share overflows. -/
theorem metrics_safe_thinnest :
    (thinnest.metrics = .ok {
        stableNav := ⟨33333333333333333333333333333, 28, by decide, by decide⟩
        leveragedNav := ⟨1, 28, by decide, by decide⟩
        collateralRatio := .one
        effectiveLeverage := ⟨70000000000000000000000000000, 0, by decide, by decide⟩
        nativePrice := thinnest.nativePrice } ∧
      ∀ m, thinnest.metrics = .ok m → m.Sane) ∧
      steepest.metrics = .error (.overflow .leveragedNav) ∧
        ¬ (MetricsError.overflow .leveragedNav).IsPanic := by
  have hsteepest : steepest.metrics = .error (.overflow .leveragedNav) := by decide +kernel
  exact ⟨⟨by decide +kernel, (metrics_safe thinnest).2⟩, hsteepest,
    ((metrics_safe steepest).1 _ hsteepest).1⟩

end ProtocolSnapshot
end TradeTracker

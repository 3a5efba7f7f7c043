import TradeTracker.Proofs.Protocol.Derivation

/-! The two net asset values share out the reserve. Four roundings stand between them and the
exact shares; only the last one is multiplied by a supply. -/
namespace TradeTracker.ProtocolSnapshot
open Decimal

namespace Derivation
variable {s : ProtocolSnapshot} {m : ProtocolMetrics} (d : Derivation s m)
include d

theorem leveragedSupply_pos : 0 < s.leveragedSupply := d.shares.leveragedSupply_pos

theorem stableValue_exact_nonneg : 0 ≤ d.stableNav.toRat * s.stableSupply :=
  mul_nonneg d.shares.stableNav_nonneg s.stableSupply_nonneg

/-- The stable value never is negative. -/
theorem stableValue_nonneg : 0 ≤ d.stableValue.toRat := d.shares.stableValue_nonneg

/-- What the reserve holds beyond the stable value, before it is rounded. -/
theorem surplus_exact_pos : 0 < s.reserveUnits - d.stableValue.toRat :=
  d.shares.surplus_exact_pos d.leveragedNav_pos

theorem stableValue_lt : d.stableValue.toRat < 2 ^ 64 / 10 ^ 9 :=
  (sub_pos.1 d.surplus_exact_pos).trans s.reserveUnits_lt

/-- The reserve covers the stable value, so that value is small enough to be exact to 18 places. -/
theorem stableValue_error :
    |d.stableNav.toRat * s.stableSupply - d.stableValue.toRat| ≤ 2 / 10 ^ 18 := by
  have herror := round?_error d.stableValue_eq
  have hlt := d.stableValue_lt
  have hexact : |d.stableNav.toRat * s.stableSupply| ≤ 2 * 10 ^ 10 := by
    rcases le_total |d.stableNav.toRat * s.stableSupply| (1 / 2) with hsmall | hlarge
    · exact hsmall.trans (by norm_num)
    · rw [max_eq_right hlarge] at herror
      have htriangle :=
        abs_sub_abs_le_abs_sub (d.stableNav.toRat * s.stableSupply) d.stableValue.toRat
      rw [abs_sub_comm, abs_of_nonneg d.stableValue_nonneg] at htriangle
      linarith
  rw [abs_sub_comm]
  refine herror.trans ?_
  rw [div_le_div_iff₀ (by positivity) (by positivity)]
  linarith [max_le (show (1 / 2 : ℚ) ≤ 2 * 10 ^ 10 by norm_num) hexact]

/-- The surplus is part of the reserve, so it is exact to 18 places too. -/
theorem surplus_error :
    |d.surplus.toRat - (s.reserveUnits - d.stableValue.toRat)| ≤ 2 / 10 ^ 18 := by
  have herror := round?_error d.surplus_eq
  rw [abs_of_pos d.surplus_exact_pos] at herror
  have hexact : s.reserveUnits - d.stableValue.toRat ≤ 2 * 10 ^ 10 := by
    linarith [s.reserveUnits_lt, d.stableValue_nonneg]
  refine herror.trans ?_
  rw [div_le_div_iff₀ (by positivity) (by positivity)]
  linarith [max_le (show (1 / 2 : ℚ) ≤ 2 * 10 ^ 10 by norm_num) hexact]

private theorem surplus_le : |d.surplus.toRat| ≤ 2 ^ 63 := by
  have herror := abs_le.1 d.surplus_error
  have hpos := d.surplus_exact_pos
  have hlt := s.reserveUnits_lt
  have hvalue := d.stableValue_nonneg
  rw [abs_le]
  constructor <;> linarith

/-- Half of the last place for each leveraged token, of which there are fewer than `2 ^ 64`. -/
theorem leveragedValue_error :
    |d.leveragedNav.toRat * s.leveragedSupply - d.surplus.toRat| ≤ 2 ^ 63 / 10 ^ 28 := by
  have herror := round?_div_error d.leveragedSupply_pos d.leveragedNav_eq
  have hsupply : s.leveragedSupply / 2 ≤ 2 ^ 63 := by linarith [s.leveragedSupply_lt]
  exact herror.trans (div_le_div_of_nonneg_right (max_le hsupply d.surplus_le) (by positivity))

end Derivation

/-- The two tokens at their net asset values make up the whole reserve to the lamport. -/
theorem navs_account_for_reserve {s : ProtocolSnapshot} {m : ProtocolMetrics}
    (h : s.metrics = .ok m) :
    |m.leveragedNav.toRat * s.leveragedSupply + m.stableNav.toRat * s.stableSupply -
      s.reserveUnits| < 1 / 10 ^ 9 := by
  obtain ⟨d⟩ := nonempty_derivation h
  have hstable := d.stableValue_error
  have hsurplus := d.surplus_error
  have hleveraged := d.leveragedValue_error
  rw [d.metrics_eq, toRat_normalize, toRat_normalize]
  rw [abs_le] at hstable hsurplus hleveraged
  rw [abs_lt]
  constructor <;> linarith

/-- Nearly all that 64 bits can hold: the error is more than nine tenths of the bound. -/
def widest : ProtocolSnapshot :=
  ⟨0, 0, 7, 18446744073709551615, 6, 0, 18446744073709551007, ⟨30, 1, by decide, by decide⟩⟩

def widestMetrics : ProtocolMetrics where
  stableNav := ⟨3333333333333333333333333333, 28, by decide, by decide⟩
  leveragedNav := ⟨9999999999999998406, 28, by decide, by decide⟩
  collateralRatio := ⟨79057474601612361458572557964, 13, by decide, by decide⟩
  effectiveLeverage := ⟨10000000000000001264402539564, 28, by decide, by decide⟩
  nativePrice := widest.nativePrice

theorem navs_account_for_reserve_widest :
    widest.metrics = .ok widestMetrics ∧
      |widestMetrics.leveragedNav.toRat * widest.leveragedSupply +
          widestMetrics.stableNav.toRat * widest.stableSupply - widest.reserveUnits| <
        1 / 10 ^ 9 := by
  have h : widest.metrics = .ok widestMetrics := by decide +kernel
  exact ⟨h, navs_account_for_reserve h⟩

end TradeTracker.ProtocolSnapshot

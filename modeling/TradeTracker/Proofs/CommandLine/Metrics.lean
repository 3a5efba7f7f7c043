import TradeTracker.CommandLine.Run
import TradeTracker.Proofs.Protocol.LeveragedPrice
import TradeTracker.Proofs.Protocol.Peg

/-! The metrics command. Its note on the dollar prices comes after what it prints, so a price that
overflows changes how the command ends and nothing else. -/
namespace TradeTracker.Command
variable {settings : Settings} {snapshot : ProtocolSnapshot} {m : ProtocolMetrics}

/-- Of the two dollar prices only that of the leveraged token overflows. -/
theorem notePrices_eq (settings : Settings) (hmetrics : snapshot.metrics = .ok m) :
    notePrices settings m =
      if settings.showsNotes = true ∧
        (Decimal.mantissaBound : ℚ) - 1 / 2 ≤ m.leveragedNav.toRat * m.nativePrice.toRat
      then .error .priceOverflow else .ok () := by
  obtain ⟨d⟩ := ProtocolSnapshot.nonempty_derivation hmetrics
  obtain ⟨dollar, -, hstable⟩ := d.exists_stablePrice
  unfold notePrices
  by_cases hnotes : settings.showsNotes = true
  · rw [if_pos hnotes, hstable]
    split_ifs with hworth
    · have hleveraged : m.leveragedPrice = .error .priceOverflow :=
        (ProtocolMetrics.usdPrice_eq_error_iff d.leveragedNav_mul_nonneg).2 hworth.2
      rw [hleveraged]
      rfl
    · obtain ⟨price, hleveraged⟩ : ∃ price, m.leveragedPrice = .ok price :=
        (ProtocolMetrics.exists_usdPrice_iff d.leveragedNav_mul_nonneg).2
          (not_le.1 fun hle => hworth ⟨hnotes, hle⟩)
      rw [hleveraged]
      rfl
  · rw [if_neg hnotes, if_neg fun hboth => hnotes hboth.1]

/-- Where there are metrics they are printed, whatever becomes of the prices. The command breaks off
exactly where it computes the price of a leveraged token that no decimal can hold. -/
theorem runMetrics_of_metrics {node : Node} {reserve : UInt64} {text : String} {price : Decimal}
    (hprice : Decimal.read text = .ok price)
    (hsnapshot : node.protocolSnapshot settings.registry.catalog reserve price = .ok snapshot)
    (hmetrics : snapshot.metrics = .ok m) :
    CommandResult.ofOutcome (runMetrics settings node reserve text) =
      ⟨if settings.showsNotes = true ∧
          (Decimal.mantissaBound : ℚ) - 1 / 2 ≤ m.leveragedNav.toRat * m.nativePrice.toRat
        then 101 else 0, m.toJson.indented ++ "\n", none⟩ := by
  have hrun : runMetrics settings node reserve text =
      ((notePrices settings m).mapError (.price (m.toJson.indented ++ "\n"))).map
        fun _ => m.toJson.indented ++ "\n" := by
    unfold runMetrics
    simp only [hprice, hsnapshot, hmetrics, Except.mapError, Outcome.ok_bind]
    cases notePrices settings m <;> rfl
  rw [hrun, notePrices_eq settings hmetrics]
  split_ifs <;> rfl

end TradeTracker.Command

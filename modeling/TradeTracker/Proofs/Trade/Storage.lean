import TradeTracker.Proofs.Transaction.Storage
import TradeTracker.Trade.Json

/-! Stored trades. What is written of a trade is read back as the trade it was written from,
whichever of the fields that may be absent are there. -/
namespace TradeTracker
open Json

theorem TradeSide.restores : Restores (oneOf? choices) fun side => .str side.name :=
  restores_oneOf fun side => by cases side <;> rfl

theorem CounterSource.restores : Restores (oneOf? choices) fun source => .str source.name :=
  restores_oneOf fun source => by cases source <;> rfl

theorem Intent.restores : Restores (oneOf? choices) fun intent => .str intent.name :=
  restores_oneOf fun intent => by cases intent <;> rfl

namespace TradeEvidence

theorem restores : Restores ofJson? toJson where
  plain evidence := by
    cases evidence with
    | inferred intent => exact ⟨trivial, Intent.restores.plain intent, trivial⟩
    | balanceDiff | unknown => exact ⟨trivial, trivial⟩
  ne_null evidence := by cases evidence <;> exact nofun
  decode_write evidence := by
    cases evidence with
    | inferred intent =>
      have hread : oneOf? Intent.choices (.str intent.name) = some intent :=
        Intent.restores.decode_write intent
      rw [ofJson?, toJson, Record.read_obj_bind]
      · exact congrArg (Option.map inferred) hread
      · decide
      · exact List.Sublist.refl _
    | balanceDiff | unknown => rfl

end TradeEvidence

namespace Trade

/-- The members that are written stand in the order of the fields, with gaps. -/
private theorem names_toJson (trade : Trade) {members : List (String × Json)}
    (h : trade.toJson = .obj members) : (members.map Prod.fst).Sublist fieldNames := by
  cases h
  simp only [List.map_append]
  have hfirst := List.Sublist.refl
    ["signature", "slot", "blockTime", "side", "xsolAmountRaw", "xsolAmount"]
  have hsymbol := hfirst.append (names_optionalMember "counterAsset" .str trade.counterSymbol)
  have hmint := hsymbol.append (names_optionalMember "counterMint" Address.toJson trade.counterMint)
  have hraw := hmint.append
    (names_optionalMember "counterAmountRaw" (fun n => ofNat n.toNat) trade.counterRawAmount)
  have hamount := hraw.append (names_optionalMember "counterAmount" .str trade.counterAmount)
  have hsource := hamount.append
    (names_optionalMember "counterSource" (fun source => .str source.name) trade.counterSource)
  have hprice := hsource.append (names_optionalMember "historicalPriceUSD" .str trade.usdPrice)
  exact hprice.append (List.Sublist.refl ["evidence", "explorerUrl"])

theorem restores : Restores ofJson? toJson where
  plain trade := by
    have hevidence := TradeEvidence.restores.plain trade.evidence
    refine plainMembers_append ?_ ⟨hevidence, trivial, trivial⟩
    refine plainMembers_append ?_ (restores_string.plain_optionalMember _ trade.usdPrice)
    refine plainMembers_append ?_
      (CounterSource.restores.plain_optionalMember _ trade.counterSource)
    refine plainMembers_append ?_ (restores_string.plain_optionalMember _ trade.counterAmount)
    refine plainMembers_append ?_ (restores_uint64.plain_optionalMember _ trade.counterRawAmount)
    refine plainMembers_append ?_ (Address.restores.plain_optionalMember _ trade.counterMint)
    refine plainMembers_append ?_ (restores_string.plain_optionalMember _ trade.counterSymbol)
    exact ⟨trivial, trivial, trivial, trivial, trivial, trivial, trivial⟩
  ne_null _ := nofun
  decode_write trade := by
    rw [ofJson?, toJson, Record.read_obj_bind]
    · rw [Record.required_bind restores_string rfl,
        Record.required_bind restores_uint64 rfl,
        Record.required_bind restores_int64 rfl,
        Record.required_bind TradeSide.restores rfl,
        Record.required_bind restores_uint64 rfl,
        Record.required_bind restores_string rfl,
        Record.nullable_bind_omitted restores_string trade.counterSymbol rfl,
        Record.optional_bind_omitted Address.restores trade.counterMint,
        Record.nullable_bind_omitted restores_uint64 trade.counterRawAmount rfl,
        Record.nullable_bind_omitted restores_string trade.counterAmount rfl,
        Record.nullable_bind_omitted CounterSource.restores trade.counterSource rfl,
        Record.nullable_bind_omitted restores_string trade.usdPrice rfl,
        Record.required_bind TradeEvidence.restores (a := trade.evidence),
        Record.required_bind restores_string (a := trade.explorerUrl)]
      all_goals simp [Record.field?, List.lookup_append, List.lookup, lookup_optionalMember]
    · decide
    · exact names_toJson trade rfl

/-- A trade is read back from the value that is written of it, and from both forms of its text. -/
theorem ofJson?_toJson (trade : Trade) :
    ofJson? trade.toJson = some trade ∧
      (Json.parse? trade.toJson.compact).bind ofJson? = some trade ∧
      (Json.parse? trade.toJson.indented).bind ofJson? = some trade := by
  have hread : ofJson? trade.toJson = some trade := restores.decode_write trade
  have hplain : trade.toJson.Plain := restores.plain trade
  refine ⟨hread, ?_, ?_⟩
  · rw [parse?_compact hplain, Option.bind_some, hread]
  · rw [parse?_indented hplain, Option.bind_some, hread]

end Trade
end TradeTracker

import TradeTracker.Proofs.Base58
import TradeTracker.Proofs.Json.Record
import TradeTracker.Transaction.SnapshotJson

/-! Stored snapshots. What is written of a snapshot, in either form of JSON text, is read back as
the snapshot it was written from. -/
namespace TradeTracker
open Json

theorem Address.restores : Restores Address.ofJson? Address.toJson where
  plain _ := trivial
  ne_null _ := nofun
  decode_write := Address.read?_text

theorem Invocation.restores : Restores Invocation.ofJson? Invocation.toJson where
  plain invocation :=
    ⟨trivial, plain_ofList restores_uint8.plain invocation.accounts, trivial, trivial, trivial⟩
  ne_null _ := nofun
  decode_write invocation := by
    rw [ofJson?, toJson, Record.read_obj_bind]
    · rw [Record.required_bind restores_uint8 rfl,
        Record.defaulted_bind restores_uint8.list rfl,
        Record.defaulted_bind restores_string rfl,
        Record.defaulted_bind restores_uint8 rfl]
    · decide
    · exact List.Sublist.refl _

theorem TokenBalance.restores : Restores TokenBalance.ofJson? TokenBalance.toJson where
  plain _ := ⟨trivial, trivial, trivial, trivial, trivial⟩
  ne_null _ := nofun
  decode_write balance := by
    rw [ofJson?, toJson, Record.read_obj_bind]
    · rw [Record.required_bind restores_uint8 rfl,
        Record.required_bind Address.restores rfl,
        Record.required_bind restores_string rfl,
        Record.required_bind restores_uint8 rfl]
    · decide
    · exact List.Sublist.refl _

theorem TransactionMeta.restores : Restores TransactionMeta.ofJson? TransactionMeta.toJson where
  plain m :=
    ⟨restores_string.plain_ofOption m.error,
      plain_ofList restores_uint64.plain m.preBalances,
      plain_ofList restores_uint64.plain m.postBalances,
      plain_ofList TokenBalance.restores.plain m.preTokenBalances,
      plain_ofList TokenBalance.restores.plain m.postTokenBalances, trivial⟩
  ne_null _ := nofun
  decode_write m := by
    rw [ofJson?, toJson, Record.read_obj_bind]
    · rw [Record.optional_bind restores_string rfl,
        Record.defaulted_bind restores_uint64.list rfl,
        Record.defaulted_bind restores_uint64.list rfl,
        Record.defaulted_bind TokenBalance.restores.list rfl,
        Record.defaulted_bind TokenBalance.restores.list rfl]
    · decide
    · exact List.Sublist.refl _

namespace TransactionSnapshot

theorem restores : Restores ofJson? toJson where
  plain snapshot :=
    ⟨trivial, trivial, restores_int64.plain_ofOption snapshot.blockTime,
      plain_ofList Address.restores.plain snapshot.accountKeys,
      plain_ofList Invocation.restores.plain snapshot.invocations,
      TransactionMeta.restores.plain_ofOption snapshot.metadata, trivial⟩
  ne_null _ := nofun
  decode_write snapshot := by
    rw [ofJson?, toJson, Record.read_obj_bind]
    · rw [Record.required_bind restores_string rfl,
        Record.required_bind restores_uint64 rfl,
        Record.optional_bind restores_int64 rfl,
        Record.required_bind Address.restores.list rfl,
        Record.defaulted_bind Invocation.restores.list rfl,
        Record.optional_bind TransactionMeta.restores rfl]
    · decide
    · exact List.Sublist.refl _

/-- A stored snapshot is read back as it was, from the compact text and from the indented one. -/
theorem ofText?_text (snapshot : TransactionSnapshot) :
    ofText? snapshot.text = some snapshot ∧ ofText? snapshot.toJson.indented = some snapshot := by
  have hplain : snapshot.toJson.Plain := restores.plain snapshot
  constructor
  · rw [ofText?, text, parse?_compact hplain, Option.bind_some]
    exact restores.decode_write snapshot
  · rw [ofText?, parse?_indented hplain, Option.bind_some]
    exact restores.decode_write snapshot

end TransactionSnapshot
end TradeTracker

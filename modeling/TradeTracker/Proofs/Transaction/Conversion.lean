import Mathlib
import TradeTracker.Proofs.Base58
import TradeTracker.Proofs.Outcome
import TradeTracker.Transaction.Response

/-! Reading the keys, positions and balances of a reported transaction. -/
namespace TradeTracker

private theorem idxOf?_of_getElem?_eq_some {α : Type} [BEq α] [LawfulBEq α] {items : List α} {a : α}
    {n : Nat} (h : items[n]? = some a) :
    ∃ i, i ≤ n ∧ items.idxOf? a = some i ∧ items[i]? = some a := by
  have hmem : a ∈ items := List.mem_of_getElem? h
  obtain ⟨i, hi⟩ := Option.isSome_iff_exists.1 (List.isSome_idxOf?.2 hmem)
  obtain ⟨hlt, hget, hfirst⟩ := List.idxOf?_eq_some_iff.1 hi
  refine ⟨i, ?_, hi, ?_⟩
  · by_contra hni
    obtain ⟨hn, hna⟩ := List.getElem?_eq_some_iff.1 h
    exact hfirst n (not_le.1 hni) hna
  · rw [List.getElem?_eq_getElem hlt, hget]

namespace ReportedCall

/-- A program among the first 256 keys is found by its text, at its first position. -/
theorem position?_text {keys : List Address} {program : Address} {n : UInt8}
    (h : keys[n.toNat]? = some program) :
    ∃ i : UInt8, position? keys program.text = some i ∧ keys[i.toNat]? = some program := by
  obtain ⟨i, hle, hindex, hget⟩ := idxOf?_of_getElem?_eq_some h
  have hlt : i < 256 := hle.trans_lt n.toNat_lt
  refine ⟨UInt8.ofNat i, ?_, ?_⟩
  · simp [position?, hindex, hlt]
  · rw [UInt8.toNat_ofNat', Nat.mod_eq_of_lt hlt]
    exact hget

end ReportedCall

namespace TransactionSnapshot

theorem readKeys_map_text (keys : List Address) : readKeys (keys.map Address.text) = .ok keys := by
  have hread : ∀ key ∈ keys,
      (Address.read key.text).mapError (ConversionError.badKey key.text) = .ok (id key) := by
    intro key _
    rw [Address.read_text]
    rfl
  rw [readKeys, Outcome.mapM_map_eq_ok hread, List.map_id]

/-- A response in a readable encoding has a snapshot once its keys and its balances are read. -/
theorem ofResponse_json {response : TransactionResponse} {signature : String}
    {signatures : List String} {message : ReportedMessage} {keys : List Address}
    {metadata : Option TransactionMeta}
    (htransaction : response.transaction = .json (signature :: signatures) message)
    (hkeys : message.accountKeys ++ message.loadedKeys response.metadata = keys.map Address.text)
    (hmeta : response.metadata.mapM readMeta = .ok metadata) :
    ofResponse response = .ok {
      signature := signature
      slot := response.slot
      blockTime := response.blockTime
      accountKeys := keys
      invocations :=
        invocationsOf keys message.calls ((response.metadata.map (·.innerCalls)).getD [])
      metadata := metadata } := by
  unfold ofResponse
  rw [htransaction]
  simp only [hkeys, readKeys_map_text, hmeta]
  rfl

/-- Balances of valid mints can be read. -/
theorem exists_readBalance {balance : ReportedBalance}
    (h : ∃ mint, Address.read balance.mint = .ok mint) : ∃ b, readBalance balance = .ok b := by
  obtain ⟨mint, hmint⟩ := h
  exact ⟨_, by rw [readBalance, hmint]⟩

end TransactionSnapshot
end TradeTracker

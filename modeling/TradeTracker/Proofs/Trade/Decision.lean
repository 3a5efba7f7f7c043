import Mathlib.Control.Monad.Basic
import TradeTracker.Proofs.Trade.Movement

/-! The decision table of classification, for an account that holds nothing but the tracked token.
Two readings of the balances and the fall from one to the other come out as one table. -/
namespace TradeTracker
open TransactionMeta

namespace BalanceChange
variable (index : Nat) (mint : Option Address) (decimals : UInt8) {before after : UInt64}

private theorem size_opened (after : UInt64) :
    (⟨index, mint, none, some after, decimals⟩ : BalanceChange).size = after := by
  rw [← UInt64.toNat_inj, toNat_size]
  rfl

private theorem toNat_sub_eq_natAbs (h : before ≤ after) :
    (after - before).toNat = ((after.toNat : Int) - before.toNat).natAbs := by
  have hle := UInt64.le_iff_toNat_le.1 h
  rw [UInt64.toNat_sub_of_le _ _ h]
  omega

private theorem size_up (h : before ≤ after) :
    (⟨index, mint, some before, some after, decimals⟩ : BalanceChange).size = after - before := by
  rw [← UInt64.toNat_inj, toNat_size, toNat_sub_eq_natAbs h]
  rfl

private theorem size_down (h : after ≤ before) :
    (⟨index, mint, some before, some after, decimals⟩ : BalanceChange).size = before - after := by
  rw [← UInt64.toNat_inj, toNat_size, toNat_sub_eq_natAbs h, net, ← Int.natAbs_neg, Int.neg_sub]
  rfl

end BalanceChange

namespace Movement

/-- The table: what the balances before and after decide, with and without an exchange call. -/
def decision (called : Bool) (decimals : UInt8) : (before after : Option UInt64) → Option Movement
  | _, none => none
  | none, some after =>
    if after = 0 then none
    else if called then some ⟨.buy, after, decimals, .inferred .likelyMint⟩
    else some ⟨.receive, after, decimals, .unknown⟩
  | some before, some after =>
    if before < after then
      some ⟨.buy, after - before, decimals, if called then .inferred .likelyMint else .balanceDiff⟩
    else if after < before then
      some ⟨.sell, before - after, decimals,
        if called then .inferred .likelyRedeem else .balanceDiff⟩
    else none

/-- Without an exchange call the balances decide alone. -/
private theorem ofChange?_eq_decision (change : BalanceChange) :
    ofChange? change = decision false change.decimals change.before change.after := by
  obtain ⟨index, mint, before, after, decimals⟩ := change
  match before, after with
  | none, none => rfl
  | some before, none => rfl
  | none, some after => rfl
  | some before, some after =>
    simp only [ofChange?, decision, Bool.false_eq_true, if_false]
    split_ifs with hup hdown
    · rw [BalanceChange.size_up _ _ _ (UInt64.le_of_lt hup)]
    · rw [BalanceChange.size_down _ _ _ (UInt64.le_of_lt hdown)]
    · rfl

private theorem decision_of_ofChange_eq_none {change : BalanceChange}
    (h : Intent.ofChange change = .none) (called : Bool) :
    decision called change.decimals change.before change.after = none := by
  cases hafter : change.after with
  | none => cases change.before <;> rfl
  | some after =>
    rw [Intent.before_eq_of_ofChange_eq_none h hafter, decision]
    simp only [UInt64.lt_irrefl, if_false]

private theorem ofIntent?_eq_decision {change : BalanceChange}
    (h : Intent.ofChange change ≠ .none) :
    ofIntent? (Intent.ofChange change) change =
      decision true change.decimals change.before change.after := by
  obtain ⟨index, mint, before, after, decimals⟩ := change
  match before, after with
  | before, none => exact absurd (Intent.ofChange_closed index mint decimals before) h
  | none, some after =>
    rw [Intent.ofChange_opened, ofIntent?_likelyMint, BalanceChange.size_opened]
    rfl
  | some before, some after =>
    rw [Intent.ofChange_both] at h ⊢
    simp only [decision, if_true]
    split_ifs at h ⊢ with hup hdown
    · have hsize := BalanceChange.size_up index mint decimals (UInt64.le_of_lt hup)
      rw [ofIntent?_likelyMint, if_neg, hsize]
      exact fun hzero => UInt64.ne_of_lt hup (BalanceChange.size_eq_zero_iff.1 hzero)
    · have hsize := BalanceChange.size_down index mint decimals (UInt64.le_of_lt hdown)
      rw [ofIntent?_likelyRedeem, if_neg, hsize]
      exact fun hzero => UInt64.ne_of_lt hdown (BalanceChange.size_eq_zero_iff.1 hzero).symm
    · exact absurd rfl h

end Movement

structure Trade.Records (trade : Trade) (movement : Movement) (counter : Option CounterAsset) :
    Prop where
  side_eq : trade.side = movement.side
  rawAmount_eq : trade.rawAmount = movement.rawAmount
  amount_eq : trade.amount = Amount.format movement.rawAmount movement.decimals
  evidence_eq : trade.evidence = movement.evidence
  counterSymbol_eq : trade.counterSymbol = counter.map (·.identity.symbol)
  counterMint_eq : trade.counterMint = counter.bind (·.identity.mint)
  counterRawAmount_eq : trade.counterRawAmount = counter.map (·.rawAmount)
  counterAmount_eq : trade.counterAmount = counter.map (·.amount)
  counterSource_eq : trade.counterSource = counter.map (·.source)

private theorem Registry.tradeOf_records (registry : Registry) (snapshot : TransactionSnapshot)
    (movement : Movement) (counter : Option CounterAsset) :
    (registry.tradeOf snapshot movement counter).Records movement counter :=
  ⟨rfl, rfl, rfl, rfl, rfl, rfl, rfl, rfl, rfl⟩

namespace TransactionMeta
variable {m : TransactionMeta} {index : Nat} {mint : Address}

/-- Every entry of the account, on either side, is one of `mint`. -/
def HoldsOnly (m : TransactionMeta) (index : Nat) (mint : Address) : Prop :=
  ∀ entry ∈ m.preTokenBalances ++ m.postTokenBalances,
    entry.accountIndex.toNat = index → entry.mint = mint

def decimalsAt (m : TransactionMeta) (index : Nat) : UInt8 :=
  (((m.postEntry index).or (m.preEntry index)).map (·.decimals)).getD 0

private theorem HoldsOnly.tokenChangeOf_eq_entryChange (h : m.HoldsOnly index mint) :
    m.tokenChangeOf index mint =
      entryChange index (some mint) (m.preEntry index) (m.postEntry index) := by
  have hpre : m.preEntryOf index mint = m.preEntry index :=
    firstEntryOf?_eq_first fun entry hentry => h entry (List.mem_append_left _ hentry)
  have hpost : m.postEntryOf index mint = m.postEntry index :=
    firstEntryOf?_eq_first fun entry hentry => h entry (List.mem_append_right _ hentry)
  rw [tokenChangeOf_eq, hpre, hpost]

private theorem HoldsOnly.mint_of_tokenChange {change : BalanceChange} (h : m.HoldsOnly index mint)
    (hchange : m.tokenChange index = .ok change) : change.mint.all (· = mint) = true := by
  obtain ⟨before, after, -, -, rfl⟩ := entryChange_eq_ok_iff.1 hchange
  rw [Option.all_eq_true]
  intro found hfound
  obtain ⟨entry, hentry, rfl⟩ := Option.map_eq_some_iff.1 hfound
  rw [decide_eq_true_eq]
  obtain hpost | ⟨-, hpre⟩ := Option.or_eq_some_iff.1 hentry
  · obtain ⟨hmem, hindex⟩ := of_firstEntry_eq_some hpost
    exact h entry (List.mem_append_right _ hmem) hindex
  · obtain ⟨hmem, hindex⟩ := of_firstEntry_eq_some hpre
    exact h entry (List.mem_append_left _ hmem) hindex

private theorem exists_entryChange (found : Option Address) {before after : Option UInt64}
    (hbefore : Shows (m.preEntry index) before) (hafter : Shows (m.postEntry index) after) :
    ∃ change, entryChange index found (m.preEntry index) (m.postEntry index) = .ok change ∧
      change.before = before ∧ change.after = after ∧ change.decimals = m.decimalsAt index :=
  ⟨_, entryChange_eq_ok_iff.2 ⟨before, after, hbefore, hafter, rfl⟩, rfl, rfl, rfl⟩

end TransactionMeta

namespace Registry
variable {registry : Registry} {snapshot : TransactionSnapshot} {m : TransactionMeta}
  {account : Address} {index : Nat}

/-- What is read of the balances of an account decides how they moved. -/
theorem movement_eq_decision {before after : Option UInt64} (hmeta : snapshot.metadata = some m)
    (h : m.HoldsOnly index registry.catalog.leveraged.mint)
    (hbefore : Shows (m.preEntry index) before) (hafter : Shows (m.postEntry index) after) :
    registry.movement snapshot m index =
      .ok (Movement.decision (snapshot.callsExchange registry.programs) (m.decimalsAt index)
        before after) := by
  have hfallback (hintent : snapshot.intent registry.programs index registry.catalog.leveraged.mint
      = .ok .none) : registry.movement snapshot m index =
        .ok (Movement.decision false (m.decimalsAt index) before after) := by
    obtain ⟨change, hchange, rfl, rfl, hdecimals⟩ := exists_entryChange _ hbefore hafter
    rw [← tokenChange_eq] at hchange
    rw [movement_of_intent hintent, if_pos rfl, hchange, Except.map, Movement.ofChangeIn?,
      if_pos (h.mint_of_tokenChange hchange), Movement.ofChange?_eq_decision, hdecimals]
  cases hcalled : snapshot.callsExchange registry.programs with
  | false => exact hfallback (intent_of_not_called _ _ hcalled)
  | true =>
    obtain ⟨change, hchange, rfl, rfl, hdecimals⟩ := exists_entryChange _ hbefore hafter
    rw [← h.tokenChangeOf_eq_entryChange] at hchange
    have hintent := intent_of_called index registry.catalog.leveraged.mint hmeta hcalled
    rw [hchange, Except.map] at hintent
    by_cases hnone : Intent.ofChange change = .none
    · rw [hnone] at hintent
      rw [hfallback hintent, ← hdecimals, Movement.decision_of_ofChange_eq_none hnone,
        Movement.decision_of_ofChange_eq_none hnone]
    · rw [movement_of_intent hintent, if_neg hnone, hchange, Except.map,
        Movement.ofIntent?_eq_decision hnone, hdecimals]

/-- An amount that cannot be read is an error whether the exchange was called or not. -/
theorem exists_movement_error (hmeta : snapshot.metadata = some m)
    (h : m.HoldsOnly index registry.catalog.leveraged.mint)
    (hunreadable : (¬ ∃ before, Shows (m.preEntry index) before) ∨
      ¬ ∃ after, Shows (m.postEntry index) after) :
    ∃ e, registry.movement snapshot m index = .error e := by
  cases hcalled : snapshot.callsExchange registry.programs with
  | false =>
    obtain ⟨e, he⟩ := exists_entryChange_error hunreadable
    refine ⟨e, ?_⟩
    rw [movement_of_intent (intent_of_not_called _ _ hcalled), if_pos rfl, tokenChange_eq, he,
      Except.map]
  | true =>
    obtain ⟨e, he⟩ := exists_entryChange_error hunreadable
    have hintent := intent_of_called index registry.catalog.leveraged.mint hmeta hcalled
    rw [h.tokenChangeOf_eq_entryChange, he, Except.map] at hintent
    refine ⟨e, ?_⟩
    rw [movement, hintent]
    rfl

theorem callsExchange_iff {programs : ProtocolPrograms} :
    snapshot.callsExchange programs = true ↔ ∃ invocation ∈ snapshot.invocations,
      snapshot.accountKeys[invocation.programIndex.toNat]? = some programs.exchange := by
  rw [TransactionSnapshot.callsExchange, TransactionSnapshot.invokes, List.any_eq_true]
  simp only [decide_eq_true_eq]
  rfl

private theorem accountIndex?_eq_some (hkey : snapshot.accountKeys[index]? = some account)
    (hfirst : ∀ j < index, snapshot.accountKeys[j]? ≠ some account) :
    snapshot.accountIndex? account = some index := by
  obtain ⟨hlt, hget⟩ := List.getElem?_eq_some_iff.1 hkey
  refine List.idxOf?_eq_some_iff.2 ⟨hlt, hget, fun j hj heq => hfirst j hj ?_⟩
  rw [List.getElem?_eq_getElem (Nat.lt_trans hj hlt), heq]

/-- The answer for what the table decides. A purchase or a sale is on record with the counter asset
that is resolved for it, and is an error where none can be, for an amount in some other account. -/
def Answers (registry : Registry) (snapshot : TransactionSnapshot) (account : Address)
    (m : TransactionMeta) (index : Nat) : Option Movement → Prop
  | none => registry.classifyAccount snapshot account = .ok .notATrade
  | some movement =>
    (movement.side = .receive →
      ∃ trade, registry.classifyAccount snapshot account = .ok (.trade trade) ∧
        trade.Records movement none) ∧
    (movement.side ≠ .receive →
      match CounterAsset.resolve registry.catalog m index registry.catalog.leveraged.mint
        movement.side with
      | .ok counter =>
        ∃ trade, registry.classifyAccount snapshot account = .ok (.trade trade) ∧
          trade.Records movement (some counter)
      | .error e => registry.classifyAccount snapshot account = .ok (.error e.message))

theorem counter_of_ne_receive (registry : Registry) {side : TradeSide} (h : side ≠ .receive) :
    registry.counter m index side =
      (CounterAsset.resolve registry.catalog m index registry.catalog.leveraged.mint side).map
        some := by
  cases side with
  | receive => exact absurd rfl h
  | buy => rfl
  | sell => rfl

private theorem answers_of_movement {moved : Option Movement} (hmeta : snapshot.metadata = some m)
    (herror : m.error = none) (hindex : snapshot.accountIndex? account = some index)
    (h : registry.movement snapshot m index = .ok moved) :
    registry.Answers snapshot account m index moved := by
  have hclassify : registry.classifyAccount snapshot account = _ :=
    classifyAccount_of_index hmeta herror hindex
  cases moved with
  | none =>
    rw [trade?_of_unmoved h] at hclassify
    exact hclassify
  | some movement =>
    rw [trade?_of_movement h] at hclassify
    constructor
    · intro hside
      rw [hside] at hclassify
      exact ⟨_, hclassify, registry.tradeOf_records snapshot movement none⟩
    · intro hside
      rw [counter_of_ne_receive registry hside] at hclassify
      cases hresolve : CounterAsset.resolve registry.catalog m index
        registry.catalog.leveraged.mint movement.side with
      | ok counter =>
        rw [hresolve] at hclassify
        exact ⟨_, hclassify, registry.tradeOf_records snapshot movement (some counter)⟩
      | error e =>
        rw [hresolve] at hclassify
        exact hclassify

/-- Classification answers by the table, for every account that holds only the tracked token. -/
theorem classifyAccount_answers {called : Bool} (hmeta : snapshot.metadata = some m)
    (herror : m.error = none) (hkey : snapshot.accountKeys[index]? = some account)
    (hfirst : ∀ j < index, snapshot.accountKeys[j]? ≠ some account)
    (hcalled : called = true ↔ ∃ invocation ∈ snapshot.invocations,
      snapshot.accountKeys[invocation.programIndex.toNat]? = some registry.programs.exchange)
    (honly : m.HoldsOnly index registry.catalog.leveraged.mint) :
    (((¬ ∃ before, Shows (m.preEntry index) before) ∨
        ¬ ∃ after, Shows (m.postEntry index) after) →
      ∃ message, registry.classifyAccount snapshot account = .ok (.error message)) ∧
    ∀ before after, Shows (m.preEntry index) before → Shows (m.postEntry index) after →
      registry.Answers snapshot account m index
        (Movement.decision called (m.decimalsAt index) before after) := by
  obtain rfl : snapshot.callsExchange registry.programs = called :=
    Bool.eq_iff_iff.2 (callsExchange_iff.trans hcalled.symm)
  have hindex := accountIndex?_eq_some hkey hfirst
  constructor
  · intro hunreadable
    obtain ⟨e, he⟩ := exists_movement_error hmeta honly hunreadable
    refine ⟨e.message, ?_⟩
    rw [classifyAccount_of_index hmeta herror hindex, trade?_of_error he]
  · intro before after hbefore hafter
    exact answers_of_movement hmeta herror hindex
      (movement_eq_decision hmeta honly hbefore hafter)

def mintedMeta : TransactionMeta := ⟨none, [], [], [], [⟨0, .filled 4, "10", 6⟩]⟩

def minted : TransactionSnapshot where
  signature := "5VERv8"
  slot := 287654321
  blockTime := some 1722470400
  accountKeys := [.filled 5, .filled 1]
  invocations := [⟨1, [0], "", 0⟩]
  metadata := some mintedMeta

theorem classifyAccount_answers_minted :
    minted.metadata = some mintedMeta ∧ mintedMeta.error = none ∧
      minted.accountKeys[0]? = some (.filled 5) ∧
      (∃ invocation ∈ minted.invocations, minted.accountKeys[invocation.programIndex.toNat]? =
        some smallest.programs.exchange) ∧
      mintedMeta.HoldsOnly 0 smallest.catalog.leveraged.mint ∧
      smallest.Answers minted (.filled 5) mintedMeta 0
        (some ⟨.buy, 10, 6, .inferred .likelyMint⟩) := by
  have hafter : Shows (mintedMeta.postEntry 0) (some 10) :=
    entryAmount_eq_ok_iff.1 (by decide +kernel)
  have hfirst : ∀ j < 0, minted.accountKeys[j]? ≠ some (.filled 5) :=
    fun j hj => absurd hj (Nat.not_lt_zero j)
  have hcalled : ∃ invocation ∈ minted.invocations,
      minted.accountKeys[invocation.programIndex.toNat]? = some smallest.programs.exchange := by
    decide
  have honly : mintedMeta.HoldsOnly 0 smallest.catalog.leveraged.mint := by
    unfold HoldsOnly
    decide
  have hanswers := classifyAccount_answers rfl rfl rfl hfirst (iff_of_true rfl hcalled) honly
  exact ⟨rfl, rfl, rfl, hcalled, honly, hanswers.2 none (some 10) .absent hafter⟩

def unresolvedMeta : TransactionMeta :=
  ⟨none, [], [], [⟨0, .filled 4, "5", 6⟩, ⟨1, .filled 3, "?", 6⟩], [⟨0, .filled 4, "10", 6⟩]⟩

def unresolved : TransactionSnapshot where
  signature := "5VERv8"
  slot := 287654321
  blockTime := some 1722470400
  accountKeys := [.filled 5, .filled 6]
  invocations := []
  metadata := some unresolvedMeta

/-- The balances alone decide for a purchase, and the answer is an error. -/
theorem unresolved_is_error :
    unresolvedMeta.HoldsOnly 0 smallest.catalog.leveraged.mint ∧
      Shows (unresolvedMeta.preEntry 0) (some 5) ∧
      Shows (unresolvedMeta.postEntry 0) (some 10) ∧
      Movement.decision false 6 (some 5) (some 10) = some ⟨.buy, 5, 6, .balanceDiff⟩ ∧
      smallest.classifyAccount unresolved (.filled 5) =
        .ok (.error "Invalid amount string: \"?\"") := by
  refine ⟨?_, entryAmount_eq_ok_iff.1 ?_, entryAmount_eq_ok_iff.1 ?_, ?_, ?_⟩
  · unfold HoldsOnly
    decide
  all_goals decide +kernel

end Registry
end TradeTracker

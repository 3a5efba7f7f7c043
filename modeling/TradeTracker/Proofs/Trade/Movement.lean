import TradeTracker.Proofs.Amount.Raw
import TradeTracker.Proofs.Token.Catalog
import TradeTracker.Trade.Classification

/-! Where a classified trade comes from: one account, one reading of its balances and the movement
that the reading shows. -/
namespace TradeTracker

/-- A side and an amount that account for a balance going from `before` to `after`. -/
structure TradeSide.Explains (side : TradeSide) (amount before after : UInt64) : Prop where
  amount_eq : amount.toNat = ((after.toNat : Int) - before.toNat).natAbs
  lt_of_sell : side = .sell → after < before
  lt_of_gain : side ≠ .sell → before < after

namespace TradeSide.Explains
variable {side : TradeSide} {amount before after : UInt64}

theorem ne (h : side.Explains amount before after) : before ≠ after := by
  rintro rfl
  by_cases hside : side = .sell
  · exact UInt64.lt_irrefl _ (h.lt_of_sell hside)
  · exact UInt64.lt_irrefl _ (h.lt_of_gain hside)

/-- The balance before is known from the one after. -/
theorem before_unique {before' : UInt64} (h : side.Explains amount before after)
    (h' : side.Explains amount before' after) : before = before' := by
  have hamount := h.amount_eq
  have hamount' := h'.amount_eq
  apply UInt64.toNat_inj.1
  by_cases hside : side = .sell
  · have hlt := UInt64.lt_iff_toNat_lt.1 (h.lt_of_sell hside)
    have hlt' := UInt64.lt_iff_toNat_lt.1 (h'.lt_of_sell hside)
    omega
  · have hlt := UInt64.lt_iff_toNat_lt.1 (h.lt_of_gain hside)
    have hlt' := UInt64.lt_iff_toNat_lt.1 (h'.lt_of_gain hside)
    omega

end TradeSide.Explains

/-- The direction from one number of 64 bits to another. -/
theorem Direction.ofChange_sub (before after : UInt64) :
    Direction.ofChange ((after.toNat : Int) - before.toNat) =
      if before < after then .increase else if after < before then .decrease else .unchanged := by
  unfold Direction.ofChange
  simp only [UInt64.lt_iff_toNat_lt]
  by_cases hup : before.toNat < after.toNat
  · rw [if_pos hup, if_pos (by omega)]
  · rw [if_neg hup, if_neg (by omega)]
    by_cases hdown : after.toNat < before.toNat
    · rw [if_pos hdown, if_pos (by omega)]
    · rw [if_neg hdown, if_neg (by omega)]

namespace BalanceChange

private theorem explains_size {change : BalanceChange} {side : TradeSide}
    (hsell : side = .sell → change.after.getD 0 < change.before.getD 0)
    (hgain : side ≠ .sell → change.before.getD 0 < change.after.getD 0) :
    side.Explains change.size (change.before.getD 0) (change.after.getD 0) :=
  ⟨by rw [toNat_size, net], hsell, hgain⟩

theorem size_eq_zero_iff {change : BalanceChange} :
    change.size = 0 ↔ change.before.getD 0 = change.after.getD 0 := by
  rw [← UInt64.toNat_inj, toNat_size, net, ← UInt64.toNat_inj]
  simp only [UInt64.toNat_zero]
  omega

end BalanceChange

namespace Intent
variable (index : Nat) (mint : Option Address) (decimals : UInt8)

@[simp] theorem ofChange_closed (before : Option UInt64) :
    ofChange ⟨index, mint, before, .none, decimals⟩ = .none := by
  cases before <;> rfl

@[simp] theorem ofChange_opened (after : UInt64) :
    ofChange ⟨index, mint, .none, some after, decimals⟩ = .likelyMint := rfl

@[simp] theorem ofChange_both (before after : UInt64) :
    ofChange ⟨index, mint, some before, some after, decimals⟩ =
      if before < after then .likelyMint else if after < before then .likelyRedeem else .none := by
  rw [ofChange, BalanceChange.direction, BalanceChange.strict, Direction.ofChange_sub]
  split_ifs <;> rfl

/-- Exchange calls without an intent left a balance that is still there as it was. -/
theorem before_eq_of_ofChange_eq_none {change : BalanceChange} {after : UInt64}
    (h : ofChange change = .none) (hafter : change.after = some after) :
    change.before = some after := by
  obtain ⟨index, mint, before, after', decimals⟩ := change
  subst hafter
  cases before with
  | none => cases h
  | some before =>
    rw [ofChange_both] at h
    split_ifs at h with hup hdown
    rw [UInt64.le_antisymm (UInt64.not_lt.1 hdown) (UInt64.not_lt.1 hup)]

private theorem le_of_ofChange_eq_likelyMint {change : BalanceChange}
    (h : ofChange change = .likelyMint) :
    change.before.getD 0 ≤ change.after.getD 0 := by
  obtain ⟨index, mint, before, after, decimals⟩ := change
  match before, after with
  | _, .none => simp at h
  | .none, some after => exact UInt64.zero_le
  | some before, some after =>
    rw [ofChange_both] at h
    split_ifs at h with hup
    exact UInt64.le_of_lt hup

private theorem lt_of_ofChange_eq_likelyRedeem {change : BalanceChange}
    (h : ofChange change = .likelyRedeem) : change.after.getD 0 < change.before.getD 0 := by
  obtain ⟨index, mint, before, after, decimals⟩ := change
  match before, after with
  | _, .none => simp at h
  | .none, some after => cases h
  | some before, some after =>
    rw [ofChange_both] at h
    split_ifs at h with hup hdown
    exact hdown

end Intent

namespace Movement
variable {change : BalanceChange} {movement : Movement}

@[simp] theorem ofIntent?_likelyMint (change : BalanceChange) :
    ofIntent? .likelyMint change =
      if change.size = 0 then none
      else some ⟨.buy, change.size, change.decimals, .inferred .likelyMint⟩ := rfl

@[simp] theorem ofIntent?_likelyRedeem (change : BalanceChange) :
    ofIntent? .likelyRedeem change =
      if change.size = 0 then none
      else some ⟨.sell, change.size, change.decimals, .inferred .likelyRedeem⟩ := rfl

/-- An intent sets the side, and the change sets the rest. -/
theorem ofIntent?_eq_some {intent : Intent} (h : ofIntent? intent change = some movement) :
    change.size ≠ 0 ∧
      ((intent = .likelyMint ∧ movement = ⟨.buy, change.size, change.decimals, .inferred intent⟩) ∨
        intent = .likelyRedeem ∧
          movement = ⟨.sell, change.size, change.decimals, .inferred intent⟩) := by
  cases intent with
  | none => cases h
  | likelyMint =>
    rw [ofIntent?_likelyMint] at h
    split_ifs at h with hsize
    exact ⟨hsize, .inl ⟨rfl, (Option.some.inj h).symm⟩⟩
  | likelyRedeem =>
    rw [ofIntent?_likelyRedeem] at h
    split_ifs at h with hsize
    exact ⟨hsize, .inr ⟨rfl, (Option.some.inj h).symm⟩⟩

/-- A movement behind an exchange call accounts for the change it was read off. -/
theorem ofIntent?_explains (h : ofIntent? (Intent.ofChange change) change = some movement) :
    movement.side.Explains movement.rawAmount (change.before.getD 0) (change.after.getD 0) := by
  obtain ⟨hsize, ⟨hintent, rfl⟩ | ⟨hintent, rfl⟩⟩ := ofIntent?_eq_some h
  · refine BalanceChange.explains_size nofun fun _ => ?_
    exact UInt64.lt_of_le_of_ne (Intent.le_of_ofChange_eq_likelyMint hintent)
      (mt BalanceChange.size_eq_zero_iff.2 hsize)
  · refine BalanceChange.explains_size (fun _ => ?_) fun hside => absurd rfl hside
    exact Intent.lt_of_ofChange_eq_likelyRedeem hintent

/-- Without an exchange call tokens came in, or a balance reported on both sides moved. -/
theorem ofChange?_eq_some (h : ofChange? change = some movement) :
    (∃ after, change.before = none ∧ change.after = some after ∧ after ≠ 0 ∧
      movement = ⟨.receive, after, change.decimals, .unknown⟩) ∨
    ∃ before after, change.before = some before ∧ change.after = some after ∧
      ((before < after ∧ movement = ⟨.buy, change.size, change.decimals, .balanceDiff⟩) ∨
        after < before ∧ movement = ⟨.sell, change.size, change.decimals, .balanceDiff⟩) := by
  unfold ofChange? at h
  split at h
  case h_1 after hbefore hafter =>
    split_ifs at h with hzero
    exact .inl ⟨after, hbefore, hafter, hzero, (Option.some.inj h).symm⟩
  case h_2 before after hbefore hafter =>
    split_ifs at h with hup hdown
    · exact .inr ⟨before, after, hbefore, hafter, .inl ⟨hup, (Option.some.inj h).symm⟩⟩
    · exact .inr ⟨before, after, hbefore, hafter, .inr ⟨hdown, (Option.some.inj h).symm⟩⟩
  case h_3 => cases h

/-- A movement without an intent accounts for its change as well. -/
theorem ofChange?_explains (h : ofChange? change = some movement) :
    movement.side.Explains movement.rawAmount (change.before.getD 0) (change.after.getD 0) := by
  obtain ⟨after, hbefore, hafter, hne, rfl⟩ | ⟨before, after, hbefore, hafter, hmoved⟩ :=
    ofChange?_eq_some h
  · rw [hbefore, hafter]
    exact ⟨by simp, nofun, fun _ => UInt64.pos_iff_ne_zero.2 hne⟩
  · obtain ⟨hlt, rfl⟩ | ⟨hlt, rfl⟩ := hmoved
    · refine BalanceChange.explains_size nofun fun _ => ?_
      rw [hbefore, hafter]
      exact hlt
    · refine BalanceChange.explains_size (fun _ => ?_) fun hside => absurd rfl hside
      rw [hbefore, hafter]
      exact hlt

end Movement

namespace Registry
variable {registry : Registry} {snapshot : TransactionSnapshot} {m : TransactionMeta} {index : Nat}

theorem intent_of_not_called {programs : ProtocolPrograms} (index : Nat) (mint : Address)
    (hcalled : snapshot.callsExchange programs = false) :
    snapshot.intent programs index mint = .ok .none := by
  rw [TransactionSnapshot.intent, hcalled]

theorem intent_of_called {programs : ProtocolPrograms} (index : Nat) (mint : Address)
    (hmeta : snapshot.metadata = some m) (hcalled : snapshot.callsExchange programs = true) :
    snapshot.intent programs index mint = (m.tokenChangeOf index mint).map Intent.ofChange := by
  rw [TransactionSnapshot.intent, hcalled, hmeta]

/-- The intent is none without an exchange call, and read off the tracked balance with one. -/
private theorem intent_eq_ok {programs : ProtocolPrograms} {mint : Address} {intent : Intent}
    (hmeta : snapshot.metadata = some m) (h : snapshot.intent programs index mint = .ok intent) :
    (snapshot.callsExchange programs = false ∧ intent = .none) ∨
      snapshot.callsExchange programs = true ∧
        ∃ change, m.tokenChangeOf index mint = .ok change ∧ Intent.ofChange change = intent := by
  cases hcalled : snapshot.callsExchange programs with
  | false =>
    rw [intent_of_not_called index mint hcalled] at h
    exact .inl ⟨rfl, (Except.ok.inj h).symm⟩
  | true =>
    rw [intent_of_called index mint hmeta hcalled] at h
    exact .inr ⟨rfl, Outcome.map_eq_ok.1 h⟩

/-- An intent is followed up by mint; without one the account is read whatever it holds. -/
theorem movement_of_intent {intent : Intent}
    (h : snapshot.intent registry.programs index registry.catalog.leveraged.mint = .ok intent) :
    registry.movement snapshot m index =
      if intent = .none then
        (m.tokenChange index).map (Movement.ofChangeIn? registry.catalog.leveraged.mint)
      else
        (m.tokenChangeOf index registry.catalog.leveraged.mint).map
          (Movement.ofIntent? intent) := by
  rw [movement, h]
  cases intent <;> rfl

/-- A movement hangs on the calls to the exchange and on the account's own balances. -/
theorem movement_congr {snapshot' : TransactionSnapshot} {m' : TransactionMeta}
    (hmeta : snapshot.metadata = some m) (hmeta' : snapshot'.metadata = some m')
    (hcalls : snapshot.callsExchange registry.programs = snapshot'.callsExchange registry.programs)
    (hchange : m.tokenChange index = m'.tokenChange index)
    (hchangeOf : ∀ mint, m.tokenChangeOf index mint = m'.tokenChangeOf index mint) :
    registry.movement snapshot m index = registry.movement snapshot' m' index := by
  have hintent (mint : Address) : snapshot.intent registry.programs index mint =
      snapshot'.intent registry.programs index mint := by
    cases hcalled : snapshot.callsExchange registry.programs with
    | false =>
      rw [intent_of_not_called index mint hcalled,
        intent_of_not_called index mint (hcalls.symm.trans hcalled)]
    | true =>
      rw [intent_of_called index mint hmeta hcalled,
        intent_of_called index mint hmeta' (hcalls.symm.trans hcalled), hchangeOf]
  rw [movement, movement, hintent, hchange, hchangeOf]

/-- A movement comes from the exchange call, or from the first entries of any mint where there is
no such call or the call left the tracked balance alone. -/
theorem movement_eq_some {movement : Movement} (hmeta : snapshot.metadata = some m)
    (h : registry.movement snapshot m index = .ok (some movement)) :
    (snapshot.callsExchange registry.programs = true ∧ ∃ change,
      m.tokenChangeOf index registry.catalog.leveraged.mint = .ok change ∧
        Movement.ofIntent? (Intent.ofChange change) change = some movement) ∨
    (snapshot.callsExchange registry.programs = true → ∃ change,
      m.tokenChangeOf index registry.catalog.leveraged.mint = .ok change ∧
        Intent.ofChange change = .none) ∧
      ∃ change, m.tokenChange index = .ok change ∧
        Movement.ofChangeIn? registry.catalog.leveraged.mint change = some movement := by
  obtain ⟨intent, hintent, -⟩ := Outcome.bind_eq_ok.1 h
  rw [movement_of_intent hintent] at h
  have hcases := intent_eq_ok hmeta hintent
  by_cases hnone : intent = .none
  · rw [if_pos hnone] at h
    refine .inr ⟨fun hcalled => ?_, Outcome.map_eq_ok.1 h⟩
    obtain ⟨hcalled', -⟩ | ⟨-, change, hchange, hofChange⟩ := hcases
    · rw [hcalled] at hcalled'
      cases hcalled'
    · exact ⟨change, hchange, hofChange.trans hnone⟩
  · rw [if_neg hnone] at h
    obtain ⟨-, hintent'⟩ | ⟨hcalled, change, hchange, rfl⟩ := hcases
    · exact absurd hintent' hnone
    · rw [hchange] at h
      exact .inl ⟨hcalled, change, hchange, Except.ok.inj h⟩

theorem trade?_of_unmoved (h : registry.movement snapshot m index = .ok none) :
    registry.trade? snapshot m index = .ok none := by
  rw [trade?, h]
  rfl

theorem trade?_of_movement {movement : Movement}
    (h : registry.movement snapshot m index = .ok (some movement)) :
    registry.trade? snapshot m index = (registry.counter m index movement.side).map
      fun counter => some (registry.tradeOf snapshot movement counter) := by
  rw [trade?, h]
  rfl

theorem trade?_of_error {e : AmountError} (h : registry.movement snapshot m index = .error e) :
    registry.trade? snapshot m index = .error e := by
  rw [trade?, h]
  rfl

/-- A trade is a movement with its counter asset. -/
theorem trade?_eq_some {trade : Trade} (h : registry.trade? snapshot m index = .ok (some trade)) :
    ∃ movement counter, registry.movement snapshot m index = .ok (some movement) ∧
      registry.counter m index movement.side = .ok counter ∧
      trade = registry.tradeOf snapshot movement counter := by
  obtain ⟨moved, hmovement, htrade⟩ := Outcome.bind_eq_ok.1 h
  cases moved with
  | none => cases htrade
  | some movement =>
    obtain ⟨counter, hcounter, htrade⟩ := Outcome.map_eq_ok.1 htrade
    exact ⟨movement, counter, hmovement, hcounter, (Option.some.inj htrade).symm⟩

theorem classifyAccount_of_no_metadata {account : Address} (hmeta : snapshot.metadata = none) :
    registry.classifyAccount snapshot account = .error (.noMetadata snapshot.signature) := by
  rw [classifyAccount, hmeta]

private theorem isFailed_of_metadata (hmeta : snapshot.metadata = some m) :
    snapshot.isFailed = m.error.isSome := by
  rw [TransactionSnapshot.isFailed, hmeta, Option.any_some]

theorem classifyAccount_of_failed {account : Address} (hmeta : snapshot.metadata = some m)
    (herror : m.error ≠ none) :
    registry.classifyAccount snapshot account = .ok (.error failedReason) := by
  have hfailed : snapshot.isFailed = true := by
    rw [isFailed_of_metadata hmeta]
    exact Option.isSome_iff_ne_none.2 herror
  unfold classifyAccount
  rw [hmeta, hfailed]
  rfl

theorem classifyAccount_of_unlisted {account : Address} (hmeta : snapshot.metadata = some m)
    (herror : m.error = none) (hindex : snapshot.accountIndex? account = none) :
    registry.classifyAccount snapshot account = .ok .notATrade := by
  have hfailed : snapshot.isFailed = false := by
    rw [isFailed_of_metadata hmeta, herror, Option.isSome_none]
  unfold classifyAccount
  rw [hmeta, hfailed, hindex]
  rfl

/-- What classification says of a listed account is what its movement and counter asset say. -/
theorem classifyAccount_of_index {account : Address} (hmeta : snapshot.metadata = some m)
    (herror : m.error = none) (hindex : snapshot.accountIndex? account = some index) :
    registry.classifyAccount snapshot account =
      match registry.trade? snapshot m index with
      | .ok (some trade) => .ok (.trade trade)
      | .ok none => .ok .notATrade
      | .error e => .ok (.error e.message) := by
  have hfailed : snapshot.isFailed = false := by
    rw [isFailed_of_metadata hmeta, herror, Option.isSome_none]
  unfold classifyAccount
  rw [hmeta, hfailed, hindex]
  rfl

/-- A trade is one of a listed account, in a transaction with metadata. -/
theorem classifyAccount_eq_trade {account : Address} {trade : Trade}
    (h : registry.classifyAccount snapshot account = .ok (.trade trade)) :
    ∃ m index, snapshot.metadata = some m ∧ snapshot.accountIndex? account = some index ∧
      registry.trade? snapshot m index = .ok (some trade) := by
  unfold classifyAccount at h
  split at h
  case h_1 => cases h
  case h_2 m hmeta =>
    split_ifs at h with hfailed
    · cases h
    · split at h
      case h_1 => cases h
      case h_2 index hindex =>
        split at h
        case h_1 trade' htrade =>
          cases h
          exact ⟨m, index, hmeta, hindex, htrade⟩
        case h_2 => cases h
        case h_3 => cases h

end Registry

/-- A registry with the two tokens that there have to be. -/
def Registry.smallest : Registry where
  programs := ⟨.filled 1, .filled 2⟩
  catalog :=
    let stable : Token := ⟨.filled 3, "hyUSD", "hyUSD", 6, .stable⟩
    let leveraged : Token := ⟨.filled 4, "xSOL", "xSOL", 6, .leveragedToken⟩
    { tokens := [stable, leveraged]
      stable := stable
      leveraged := leveraged
      nodup_mints := by decide
      decimals_le := by decide
      stable_only := by decide
      leveraged_only := by decide }

end TradeTracker

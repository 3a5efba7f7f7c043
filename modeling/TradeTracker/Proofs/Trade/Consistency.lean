import TradeTracker.Proofs.Trade.Counter
import TradeTracker.Proofs.Trade.Decision

/-! The fields of a trade agree with each other. They are filled from the movement of the tracked
token, from the counter asset and from the price, so each relation is shown of the part that fills
both its fields. -/
namespace TradeTracker

private theorem TradeSide.Explains.amount_ne_zero {side : TradeSide} {amount before after : UInt64}
    (h : side.Explains amount before after) : amount ≠ 0 := by
  have hne : before.toNat ≠ after.toNat := fun heq => h.ne (UInt64.toNat_inj.1 heq)
  intro hzero
  have hamount := h.amount_eq
  rw [hzero, UInt64.toNat_zero] at hamount
  omega

namespace Movement
variable {movement : Movement}

/-- The parts of a movement agree: its size, its side and how that was established. -/
structure Consistent (movement : Movement) (called : Prop) : Prop where
  rawAmount_ne_zero : movement.rawAmount ≠ 0
  receive_iff_unknown : movement.side = .receive ↔ movement.evidence = .unknown
  of_inferred : ∀ intent, movement.evidence = .inferred intent → called ∧ intent ≠ .none ∧
    (intent = .likelyMint ↔ movement.side = .buy) ∧
    (intent = .likelyRedeem ↔ movement.side = .sell)

private theorem consistent_ofIntent? {called : Prop} {change : BalanceChange} (hcalled : called)
    (h : ofIntent? (Intent.ofChange change) change = some movement) :
    movement.Consistent called := by
  refine ⟨(ofIntent?_explains h).amount_ne_zero, ?_, ?_⟩
  all_goals obtain ⟨-, ⟨hintent, rfl⟩ | ⟨hintent, rfl⟩⟩ := ofIntent?_eq_some h
  · exact iff_of_false nofun nofun
  · exact iff_of_false nofun nofun
  · rw [hintent]
    rintro intent ⟨⟩
    exact ⟨hcalled, nofun, iff_of_true rfl rfl, iff_of_false nofun nofun⟩
  · rw [hintent]
    rintro intent ⟨⟩
    exact ⟨hcalled, nofun, iff_of_false nofun nofun, iff_of_true rfl rfl⟩

private theorem consistent_ofChange? {called : Prop} {change : BalanceChange}
    (h : ofChange? change = some movement) : movement.Consistent called := by
  refine ⟨(ofChange?_explains h).amount_ne_zero, ?_, ?_⟩
  all_goals
    obtain ⟨_, -, -, -, rfl⟩ | ⟨_, _, -, -, ⟨-, rfl⟩ | ⟨-, rfl⟩⟩ := ofChange?_eq_some h
  · exact iff_of_true rfl rfl
  · exact iff_of_false nofun nofun
  · exact iff_of_false nofun nofun
  all_goals exact nofun

end Movement

private theorem Registry.consistent_of_movement {registry : Registry}
    {snapshot : TransactionSnapshot} {m : TransactionMeta} {index : Nat} {movement : Movement}
    (hmeta : snapshot.metadata = some m)
    (h : registry.movement snapshot m index = .ok (some movement)) :
    movement.Consistent (snapshot.callsExchange registry.programs = true) := by
  obtain ⟨hcalled, change, -, hmoved⟩ | ⟨-, change, -, hmoved⟩ := movement_eq_some hmeta h
  · exact Movement.consistent_ofIntent? hcalled hmoved
  · rw [Movement.ofChangeIn?] at hmoved
    split_ifs at hmoved
    exact Movement.consistent_ofChange? hmoved

private theorem Price.counterMint_of_ofTrade? {catalog : Catalog} {trade : Trade}
    (h : (Price.ofTrade? catalog trade).isSome = true) :
    trade.counterMint = some catalog.stable.mint := by
  obtain ⟨price, hprice⟩ := Option.isSome_iff_exists.1 h
  obtain ⟨mint, hmint, hprice⟩ := Option.bind_eq_some_iff.1 hprice
  obtain ⟨_, -, hprice⟩ := Option.bind_eq_some_iff.1 hprice
  split_ifs at hprice with hstable
  rw [hmint, Catalog.isStableMint_iff.1 hstable]

structure Trade.Consistent (trade : Trade) (registry : Registry) (snapshot : TransactionSnapshot) :
    Prop where
  rawAmount_pos : 0 < trade.rawAmount
  receive_iff_unknown : trade.side = .receive ↔ trade.evidence = .unknown
  receive_iff_no_counter : trade.side = .receive ↔
    trade.counterSymbol = none ∧ trade.counterRawAmount = none ∧ trade.counterAmount = none ∧
      trade.counterSource = none
  counter_of_exchanged : trade.side ≠ .receive →
    trade.counterSymbol.isSome ∧ trade.counterRawAmount.isSome ∧ trade.counterAmount.isSome ∧
      trade.counterSource.isSome
  of_inferred : ∀ intent, trade.evidence = .inferred intent →
    (∃ invocation ∈ snapshot.invocations,
      snapshot.accountKeys[invocation.programIndex.toNat]? = some registry.programs.exchange) ∧
    intent ≠ .none ∧ (intent = .likelyMint ↔ trade.side = .buy) ∧
    (intent = .likelyRedeem ↔ trade.side = .sell)
  counterMint_isSome_iff : trade.counterMint.isSome = true ↔
    trade.counterSource = some .catalog ∨ trade.counterSource = some .unlistedMint
  counterMint_ne_leveraged : trade.counterMint ≠ some registry.catalog.leveraged.mint
  source_eq_catalog_iff : ∀ mint, trade.counterMint = some mint →
    (trade.counterSource = some .catalog ↔
      ∃ token ∈ registry.catalog.tokens, token.mint = mint)
  counterRawAmount_eq_zero_iff : trade.counterRawAmount = some 0 ↔
    trade.counterSource = some .default
  counterMint_of_usdPrice : trade.usdPrice.isSome = true →
    trade.counterMint = some registry.catalog.stable.mint

namespace Registry
variable {registry : Registry} {snapshot : TransactionSnapshot} {m : TransactionMeta} {index : Nat}
  {movement : Movement}

private theorem counter_eq_ok {side : TradeSide} {counter : Option CounterAsset}
    (h : registry.counter m index side = .ok counter) :
    (side = .receive ∧ counter = none) ∨ side ≠ .receive ∧ ∃ asset, counter = some asset ∧
      asset.Consistent registry.catalog registry.catalog.leveraged.mint := by
  by_cases hside : side = .receive
  · subst hside
    cases h
    exact .inl ⟨rfl, rfl⟩
  · rw [counter_of_ne_receive registry hside] at h
    obtain ⟨asset, hasset, rfl⟩ := Outcome.map_eq_ok.1 h
    exact .inr ⟨hside, asset, rfl, CounterAsset.consistent_of_resolve hasset⟩

private theorem tradeOf_consistent {counter : Option CounterAsset}
    (hmovement : movement.Consistent (snapshot.callsExchange registry.programs = true))
    (hcounter : registry.counter m index movement.side = .ok counter) :
    (registry.tradeOf snapshot movement counter).Consistent registry snapshot := by
  have hprice : (registry.tradeOf snapshot movement counter).usdPrice.isSome = true →
      (registry.tradeOf snapshot movement counter).counterMint =
        some registry.catalog.stable.mint :=
    fun h => Price.counterMint_of_ofTrade? h
  have hinferred (intent : Intent) (h : movement.evidence = .inferred intent) := by
    obtain ⟨hcalled, hintent⟩ := hmovement.of_inferred intent h
    exact And.intro (callsExchange_iff.1 hcalled) hintent
  obtain ⟨hside, rfl⟩ | ⟨hside, asset, rfl, hasset⟩ := counter_eq_ok hcounter
  · exact {
      rawAmount_pos := UInt64.pos_iff_ne_zero.2 hmovement.rawAmount_ne_zero
      receive_iff_unknown := hmovement.receive_iff_unknown
      receive_iff_no_counter := iff_of_true hside ⟨rfl, rfl, rfl, rfl⟩
      counter_of_exchanged := fun hne => absurd hside hne
      of_inferred := hinferred
      counterMint_isSome_iff := iff_of_false nofun (by rintro (h | h) <;> cases h)
      counterMint_ne_leveraged := nofun
      source_eq_catalog_iff := nofun
      counterRawAmount_eq_zero_iff := iff_of_false nofun nofun
      counterMint_of_usdPrice := hprice }
  · have hsome {α : Type} {a b : α} : some a = some b ↔ a = b := Option.some_inj
    exact {
      rawAmount_pos := UInt64.pos_iff_ne_zero.2 hmovement.rawAmount_ne_zero
      receive_iff_unknown := hmovement.receive_iff_unknown
      receive_iff_no_counter := iff_of_false hside (by rintro ⟨⟨⟩, -⟩)
      counter_of_exchanged := fun _ => ⟨rfl, rfl, rfl, rfl⟩
      of_inferred := hinferred
      counterMint_isSome_iff :=
        hasset.mint_isSome_iff.trans (or_congr hsome.symm hsome.symm)
      counterMint_ne_leveraged := hasset.mint_ne_tracked
      source_eq_catalog_iff := fun mint hmint =>
        hsome.trans (hasset.source_eq_catalog_iff mint hmint)
      counterRawAmount_eq_zero_iff :=
        hsome.trans (hasset.rawAmount_eq_zero_iff.trans hsome.symm)
      counterMint_of_usdPrice := hprice }

/-- Every trade that classification answers with is consistent, and is no error. -/
theorem classifyAccount_consistent {account : Address} {result : TradeResult} {trade : Trade}
    (h : registry.classifyAccount snapshot account = .ok result)
    (htrade : result.trade? = some trade) :
    result.error? = none ∧ trade.Consistent registry snapshot := by
  cases result with
  | notATrade => cases htrade
  | error message => cases htrade
  | trade found =>
    cases htrade
    obtain ⟨m, index, hmeta, -, htrade⟩ := classifyAccount_eq_trade h
    obtain ⟨movement, counter, hmovement, hcounter, rfl⟩ := trade?_eq_some htrade
    exact ⟨rfl, tradeOf_consistent (consistent_of_movement hmeta hmovement) hcounter⟩

def settledMeta : TransactionMeta :=
  ⟨none, [9000, 9000, 9000], [9000, 2000, 9000], [⟨1, .filled 3, "5000000", 6⟩],
    [⟨0, .filled 4, "2000000", 6⟩, ⟨1, .filled 3, "1000000", 6⟩]⟩

def settled : TransactionSnapshot where
  signature := "5VERv8"
  slot := 287654321
  blockTime := some 1722470400
  accountKeys := [.filled 5, .filled 6, .filled 1]
  invocations := [⟨2, [0], "", 0⟩]
  metadata := some settledMeta

def settledTrade : Trade where
  signature := "5VERv8"
  slot := 287654321
  blockTime := 1722470400
  side := .buy
  rawAmount := 2000000
  amount := "2"
  counterSymbol := some "hyUSD"
  counterMint := some (.filled 3)
  counterRawAmount := some 4000000
  counterAmount := some "4"
  counterSource := some .catalog
  usdPrice := some "2.000"
  evidence := .inferred .likelyMint
  explorerUrl := "https://solscan.io/tx/5VERv8"

theorem classifyAccount_consistent_settled :
    smallest.classifyAccount settled (.filled 5) = .ok (.trade settledTrade) ∧
      (TradeResult.trade settledTrade).error? = none ∧
      settledTrade.Consistent smallest settled := by
  have h : smallest.classifyAccount settled (.filled 5) = .ok (.trade settledTrade) := by
    decide +kernel
  exact ⟨h, classifyAccount_consistent h rfl⟩

end Registry
end TradeTracker

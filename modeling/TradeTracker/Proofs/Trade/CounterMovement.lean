import TradeTracker.Proofs.Trade.Consistency
import TradeTracker.Proofs.Transaction.TokenChanges

/-! Whether the counter asset of a trade moved as the trade has it. The counter is read off the
first entries of an account and named by the later one, so its amount is a movement of the mint it
names where the entry before the transaction is worth as much as the first one of that mint. -/
namespace TradeTracker
open TransactionMeta

/-- On a purchase an amount leaves a balance, on a sale it comes in. -/
def TradeSide.Settles : TradeSide → (amount before after : UInt64) → Prop
  | .buy, amount, before, after => after.toNat + amount.toNat = before.toNat
  | .sell, amount, before, after => before.toNat + amount.toNat = after.toNat
  | .receive, _, _, _ => False

private theorem TradeSide.Settles.before_unique {side : TradeSide}
    {amount before before' after : UInt64}
    (h : side.Settles amount before after) (h' : side.Settles amount before' after) :
    before = before' := by
  apply UInt64.toNat_inj.1
  cases side with
  | buy => exact h.symm.trans h'
  | sell => exact Nat.add_right_cancel (h.trans h'.symm)
  | receive => exact h.elim

theorem BalanceChange.settles_size {change : BalanceChange} {side : TradeSide}
    (h : CounterAsset.expectedDirection? side = some change.netDirection) :
    side.Settles change.size (change.before.getD 0) (change.after.getD 0) := by
  have hsize := change.toNat_size
  have hdirection := Direction.ofChange_sub (change.before.getD 0) (change.after.getD 0)
  rw [← net] at hdirection
  simp only [UInt64.lt_iff_toNat_lt] at hdirection
  rw [netDirection, hdirection] at h
  rw [net] at hsize
  cases side with
  | receive => cases h
  | buy =>
    split_ifs at h with hup hdown
    · cases h
    · change _ + _ = _
      omega
    · cases h
  | sell =>
    split_ifs at h with hup hdown
    · change _ + _ = _
      omega
    · cases h
    · cases h

/-- The counter amount of a trade went through one account's balance of `mint`, by the first entries
of that mint. -/
def Trade.SettledBy (trade : Trade) (m : TransactionMeta) (index : Nat) (mint : Address) : Prop :=
  ∃ amount before after, trade.counterRawAmount = some amount ∧
    AmountsTo (m.preEntryOf index mint) before ∧ AmountsTo (m.postEntryOf index mint) after ∧
    trade.side.Settles amount before after

/-- It went through the first entries of the account, whatever their mints, and the later of them is
one of `mint`. -/
def Trade.ReadFrom (trade : Trade) (m : TransactionMeta) (index : Nat) (mint : Address) : Prop :=
  ((m.postEntry index).or (m.preEntry index)).map (·.mint) = some mint ∧
    ∃ amount before after, trade.counterRawAmount = some amount ∧
      AmountsTo (m.preEntry index) before ∧ AmountsTo (m.postEntry index) after ∧
      trade.side.Settles amount before after

/-- The first entry before the transaction, of any mint, amounts to as much as the first one of
`mint`. -/
def TransactionMeta.StartsIn (m : TransactionMeta) (index : Nat) (mint : Address) : Prop :=
  ∃ before, AmountsTo (m.preEntryOf index mint) before ∧ AmountsTo (m.preEntry index) before

variable {m : TransactionMeta} {index : Nat} {mint : Address} {trade : Trade}

private theorem TransactionMeta.postEntryOf_eq
    (h : ((m.postEntry index).or (m.preEntry index)).map (·.mint) = some mint) :
    m.postEntryOf index mint = m.postEntry index := by
  cases hpost : m.postEntry index with
  | none => exact firstEntryOf?_eq_none hpost mint
  | some entry =>
    rw [hpost, Option.some_or, Option.map_some, Option.some_inj] at h
    exact firstEntryOf?_of_first hpost h

/-- An account that the counter was read from settled the trade exactly where reading started in the
mint that was named. -/
private theorem Trade.ReadFrom.settledBy_iff_startsIn (h : trade.ReadFrom m index mint) :
    trade.SettledBy m index mint ↔ m.StartsIn index mint := by
  obtain ⟨hmint, amount, before, after, hamount, hbefore, hafter, hsettles⟩ := h
  rw [← postEntryOf_eq hmint] at hafter
  constructor
  · rintro ⟨amount', before', after', hamount', hbefore', hafter', hsettles'⟩
    cases hamount.symm.trans hamount'
    obtain rfl := hafter.unique hafter'
    obtain rfl := hsettles.before_unique hsettles'
    exact ⟨before, hbefore', hbefore⟩
  · rintro ⟨before', hbefore', hfirst⟩
    obtain rfl := hbefore.unique hfirst
    exact ⟨amount, before, after, hamount, hbefore', hafter, hsettles⟩

private theorem CounterAsset.change_of_resolve {catalog : Catalog} {target : Nat}
    {tracked : Address} {side : TradeSide} {counter : CounterAsset}
    (h : resolve catalog m target tracked side = .ok counter)
    (hmint : counter.identity.mint = some mint) :
    ∃ change, change.index ≠ target ∧ m.tokenChange change.index = .ok change ∧
      change.mint = some mint ∧ counter.rawAmount = change.size ∧
      expectedDirection? side = some change.netDirection := by
  obtain rfl | ⟨expected, hexpected, hmoved⟩ := resolve_eq_ok h
  · cases hmint
  obtain ⟨change, -, rfl⟩ | ⟨changes, hchanges, change, hchange, htoken⟩ := hmoved
  · cases hmint
  · obtain ⟨hmem, hindex, -, hdirection⟩ := of_mem_tokenMoves hchange
    obtain ⟨found, hfound, rfl⟩ := ofToken?_eq_some htoken
    rw [Catalog.mint_identify] at hmint
    exact ⟨change, hindex, tokenChange_of_mem hchanges hmem, hfound.trans hmint, rfl,
      hexpected.trans (congrArg some hdirection.symm)⟩

private theorem Registry.readFrom_of_trade? {registry : Registry} {snapshot : TransactionSnapshot}
    (h : registry.trade? snapshot m index = .ok (some trade))
    (hmint : trade.counterMint = some mint) : ∃ j, j ≠ index ∧ trade.ReadFrom m j mint := by
  obtain ⟨movement, counter, -, hcounter, rfl⟩ := trade?_eq_some h
  obtain ⟨asset, rfl, hasset⟩ := Option.bind_eq_some_iff.1 hmint
  have hside : movement.side ≠ .receive := by
    intro hside
    rw [hside] at hcounter
    cases hcounter
  rw [counter_of_ne_receive registry hside] at hcounter
  obtain ⟨_, hresolve, hsome⟩ := Outcome.map_eq_ok.1 hcounter
  cases hsome
  obtain ⟨change, hindex, hchange, hfound, hamount, hdirection⟩ :=
    CounterAsset.change_of_resolve hresolve hasset
  have hsettles := BalanceChange.settles_size hdirection
  rw [tokenChange_eq] at hchange
  obtain ⟨before, after, hbefore, hafter, heq⟩ := entryChange_eq_ok_iff.1 hchange
  rw [heq] at hsettles hfound
  refine ⟨change.index, hindex, hfound, change.size, _, _, congrArg some hamount, hbefore.amountsTo,
    hafter.amountsTo, ?_⟩
  rw [heq]
  exact hsettles

/-- The counter of a trade is a movement of the mint it names exactly where reading started in that
mint, in the account it was read from, or where some other account made the same movement. -/
theorem counter_settled_iff {registry : Registry} {snapshot : TransactionSnapshot}
    {account : Address} (h : registry.classifyAccount snapshot account = .ok (.trade trade))
    (hmint : trade.counterMint = some mint) :
    ∃ m index j, snapshot.metadata = some m ∧ snapshot.accountIndex? account = some index ∧
      j ≠ index ∧ trade.ReadFrom m j mint ∧
      ((∃ k, k ≠ index ∧ trade.SettledBy m k mint) ↔
        m.StartsIn j mint ∨ ∃ k, k ≠ index ∧ k ≠ j ∧ trade.SettledBy m k mint) := by
  obtain ⟨m, index, hmeta, hindex, htrade⟩ := Registry.classifyAccount_eq_trade h
  obtain ⟨j, hj, hread⟩ := Registry.readFrom_of_trade? htrade hmint
  refine ⟨m, index, j, hmeta, hindex, hj, hread, ?_⟩
  constructor
  · rintro ⟨k, hk, hsettled⟩
    by_cases hkj : k = j
    · subst hkj
      exact .inl (hread.settledBy_iff_startsIn.1 hsettled)
    · exact .inr ⟨k, hk, hkj, hsettled⟩
  · rintro (hstarts | ⟨k, hk, -, hsettled⟩)
    · exact ⟨j, hj, hread.settledBy_iff_startsIn.2 hstarts⟩
    · exact ⟨k, hk, hsettled⟩

/-- Two tracked units came in. The other account gave up five units of some other token and was made
anew with a stable one. -/
def relabeledMeta : TransactionMeta :=
  ⟨none, [], [], [⟨0, .filled 4, "1000000", 6⟩, ⟨1, .filled 7, "5000000", 6⟩],
    [⟨0, .filled 4, "3000000", 6⟩, ⟨1, .filled 3, "1000000", 6⟩]⟩

def relabeled : TransactionSnapshot where
  signature := "5VERv8"
  slot := 287654321
  blockTime := some 1722470400
  accountKeys := [.filled 5, .filled 6]
  invocations := []
  metadata := some relabeledMeta

def relabeledTrade : Trade where
  signature := "5VERv8"
  slot := 287654321
  blockTime := 1722470400
  side := .buy
  rawAmount := 2000000
  amount := "2"
  counterSymbol := some "hyUSD"
  counterMint := some (.filled 3)
  counterRawAmount := some 4000000
  counterAmount := some "4"
  counterSource := some .catalog
  usdPrice := some "2.000"
  evidence := .balanceDiff
  explorerUrl := "https://solscan.io/tx/5VERv8"

private theorem classifyAccount_relabeled :
    Registry.smallest.classifyAccount relabeled (.filled 5) = .ok (.trade relabeledTrade) := by
  decide +kernel

theorem counter_settled_iff_relabeled :
    Registry.smallest.classifyAccount relabeled (.filled 5) = .ok (.trade relabeledTrade) ∧
      relabeledTrade.counterMint = some (.filled 3) ∧
      ∃ m index j, relabeled.metadata = some m ∧
        relabeled.accountIndex? (.filled 5) = some index ∧ j ≠ index ∧
        relabeledTrade.ReadFrom m j (.filled 3) ∧
        ((∃ k, k ≠ index ∧ relabeledTrade.SettledBy m k (.filled 3)) ↔
          m.StartsIn j (.filled 3) ∨
            ∃ k, k ≠ index ∧ k ≠ j ∧ relabeledTrade.SettledBy m k (.filled 3)) :=
  ⟨classifyAccount_relabeled, rfl, counter_settled_iff classifyAccount_relabeled rfl⟩

/-- Four stable units are on record as spent, and no account had any to spend. -/
theorem not_settledBy_relabeled :
    Registry.smallest.classifyAccount relabeled (.filled 5) = .ok (.trade relabeledTrade) ∧
      relabeledTrade.side = .buy ∧ relabeledTrade.counterMint = some (.filled 3) ∧
      relabeled.metadata = some relabeledMeta ∧
      relabeled.accountIndex? (.filled 5) = some 0 ∧
      ¬ ∃ k, k ≠ 0 ∧ relabeledTrade.SettledBy relabeledMeta k (.filled 3) := by
  refine ⟨classifyAccount_relabeled, rfl, rfl, rfl, by decide, ?_⟩
  rintro ⟨k, -, amount, before, after, hamount, hbefore, -, hsettles⟩
  have hmints : ∀ entry ∈ relabeledMeta.preTokenBalances, entry.mint ≠ .filled 3 := by decide
  have hnone : relabeledMeta.preEntryOf k (.filled 3) = none := by
    refine List.find?_eq_none.2 fun entry hentry hboth => ?_
    rw [decide_eq_true_eq] at hboth
    exact hmints entry hentry hboth.2
  rw [hnone] at hbefore
  obtain rfl := hbefore.unique Shows.absent.amountsTo
  cases hamount
  have hspent : after.toNat + 4000000 = 0 := hsettles
  omega

end TradeTracker

import Mathlib.Control.Monad.Basic
import TradeTracker.Proofs.Trade.Movement

/-! Whether the amount of a trade is a movement of the tracked token. It is one behind an exchange
call; without a call the balance before is that of the first entry, whatever its mint. -/
namespace TradeTracker
open TransactionMeta

/-- The amount and side of a trade are those of the change of `mint` in the account at `index`, by
the first entries of that mint. -/
def Trade.Tracks (trade : Trade) (m : TransactionMeta) (index : Nat) (mint : Address) : Prop :=
  ∃ before after, AmountsTo (m.preEntryOf index mint) before ∧
    AmountsTo (m.postEntryOf index mint) after ∧
    trade.side.Explains trade.rawAmount before after

variable {m : TransactionMeta} {index : Nat} {tracked : Address} {change : BalanceChange}
  {movement : Movement}

/-- A movement without an exchange call ends at the tracked balance, since the mint of the entry
after is looked at, and starts at the first entry of any mint. -/
private theorem Movement.explains_of_ofChangeIn? (hchange : m.tokenChange index = .ok change)
    (h : ofChangeIn? tracked change = some movement) :
    ∃ before after, AmountsTo (m.preEntry index) before ∧
      Shows (m.postEntryOf index tracked) (some after) ∧
      movement.side.Explains movement.rawAmount before after := by
  rw [ofChangeIn?] at h
  split_ifs at h with hmint
  have hexplains := ofChange?_explains h
  have hpost : ∃ after, change.after = some after := by
    obtain ⟨after, -, hafter, -⟩ | ⟨_, after, -, hafter, -⟩ := ofChange?_eq_some h
    · exact ⟨after, hafter⟩
    · exact ⟨after, hafter⟩
  obtain ⟨after, hafter⟩ := hpost
  rw [tokenChange_eq] at hchange
  obtain ⟨before, after', hbefore, hshows, rfl⟩ := entryChange_eq_ok_iff.1 hchange
  cases hafter
  refine ⟨before.getD 0, after, ⟨before, hbefore, rfl⟩, ?_, hexplains⟩
  cases hentry : m.postEntry index with
  | none =>
    rw [hentry] at hshows
    cases hshows
  | some entry =>
    rw [hentry] at hmint hshows
    have hmint' : entry.mint = tracked := by simpa using hmint
    rw [postEntryOf, firstEntryOf?_of_first hentry hmint']
    exact hshows

/-- An exchange call moved the tracked balance, or the first entry before the transaction, of any
mint, amounts to as much as the first tracked one. -/
def Registry.ReadsTracked (registry : Registry) (snapshot : TransactionSnapshot)
    (m : TransactionMeta) (index : Nat) : Prop :=
  let tracked := registry.catalog.leveraged.mint
  (snapshot.invokes registry.programs.exchange = true ∧ ∃ before after,
    AmountsTo (m.preEntryOf index tracked) before ∧
    AmountsTo (m.postEntryOf index tracked) after ∧ before ≠ after) ∨
  ∃ before, AmountsTo (m.preEntryOf index tracked) before ∧
    AmountsTo (m.preEntry index) before

/-- The amount and side of a trade are a movement of the tracked token exactly when the tracked
balances are what was read. -/
theorem tracks_iff {registry : Registry} {snapshot : TransactionSnapshot} {account : Address}
    {trade : Trade} (h : registry.classifyAccount snapshot account = .ok (.trade trade)) :
    ∃ m index, snapshot.metadata = some m ∧ snapshot.accountIndex? account = some index ∧
      (trade.Tracks m index registry.catalog.leveraged.mint ↔
        registry.ReadsTracked snapshot m index) := by
  obtain ⟨m, index, hmeta, hindex, htrade⟩ := Registry.classifyAccount_eq_trade h
  obtain ⟨movement, counter, hmovement, -, rfl⟩ := Registry.trade?_eq_some htrade
  refine ⟨m, index, hmeta, hindex, ?_⟩
  obtain ⟨hcalled, change, hchange, hintent⟩ | ⟨hcalled, change, hchange, hmoved⟩ :=
    Registry.movement_eq_some hmeta hmovement
  · obtain ⟨hbefore, hafter⟩ := shows_of_tokenChangeOf hchange
    have hexplains := Movement.ofIntent?_explains hintent
    constructor
    · exact fun _ => .inl ⟨hcalled, _, _, hbefore.amountsTo, hafter.amountsTo, hexplains.ne⟩
    · exact fun _ => ⟨_, _, hbefore.amountsTo, hafter.amountsTo, hexplains⟩
  · obtain ⟨before, after, hbefore, hafter, hexplains⟩ :=
      Movement.explains_of_ofChangeIn? hchange hmoved
    constructor
    · rintro ⟨before', after', hbefore', hpost, hexplains'⟩
      obtain rfl := hafter.amountsTo.unique hpost
      obtain rfl := hexplains.before_unique hexplains'
      exact .inr ⟨before, hbefore', hbefore⟩
    · rintro (⟨hinvokes, before', after', hbefore', hpost, hne⟩ | ⟨before', hbefore', hfirst⟩)
      · obtain ⟨change', hchange', hnone⟩ := hcalled hinvokes
        obtain ⟨hshows, hshows'⟩ := shows_of_tokenChangeOf hchange'
        have hkept := Intent.before_eq_of_ofChange_eq_none hnone (hshows'.unique hafter)
        rw [hkept] at hshows
        have hbefore := hbefore'.unique hshows.amountsTo
        have hafter := hpost.unique hafter.amountsTo
        exact absurd (hbefore.trans hafter.symm) hne
      · obtain rfl := hbefore.unique hfirst
        exact ⟨before, after, hbefore', hafter.amountsTo, hexplains⟩

/-- The account held five units of some other token and was made anew for ten tracked ones. -/
def recreatedMeta : TransactionMeta :=
  ⟨none, [], [], [⟨0, .filled 6, "5", 6⟩], [⟨0, .filled 4, "10", 6⟩]⟩

def recreated : TransactionSnapshot where
  signature := "5VERv8"
  slot := 287654321
  blockTime := some 1722470400
  accountKeys := [.filled 5]
  invocations := []
  metadata := some recreatedMeta

def recreatedTrade : Trade where
  signature := "5VERv8"
  slot := 287654321
  blockTime := 1722470400
  side := .buy
  rawAmount := 5
  amount := "0.000005"
  counterSymbol := some "SOL"
  counterMint := none
  counterRawAmount := some 0
  counterAmount := some "0"
  counterSource := some .default
  usdPrice := none
  evidence := .balanceDiff
  explorerUrl := "https://solscan.io/tx/5VERv8"

private theorem classifyAccount_recreated :
    Registry.smallest.classifyAccount recreated (.filled 5) = .ok (.trade recreatedTrade) := by
  decide +kernel

theorem tracks_iff_recreated :
    Registry.smallest.classifyAccount recreated (.filled 5) = .ok (.trade recreatedTrade) ∧
      ∃ m index, recreated.metadata = some m ∧ recreated.accountIndex? (.filled 5) = some index ∧
        (recreatedTrade.Tracks m index Registry.smallest.catalog.leveraged.mint ↔
          Registry.smallest.ReadsTracked recreated m index) :=
  ⟨classifyAccount_recreated, tracks_iff classifyAccount_recreated⟩

/-- Ten units came in, and five are recorded. -/
theorem not_tracks_recreated :
    Registry.smallest.classifyAccount recreated (.filled 5) = .ok (.trade recreatedTrade) ∧
      recreated.metadata = some recreatedMeta ∧
      recreated.accountIndex? (.filled 5) = some 0 ∧
      ¬ recreatedTrade.Tracks recreatedMeta 0 Registry.smallest.catalog.leveraged.mint := by
  refine ⟨classifyAccount_recreated, rfl, by decide, ?_⟩
  rintro ⟨before, after, hbefore, hafter, hexplains⟩
  have hpre : recreatedMeta.preEntryOf 0
      Registry.smallest.catalog.leveraged.mint = none := by decide
  have hpost : entryAmount (recreatedMeta.postEntryOf 0
      Registry.smallest.catalog.leveraged.mint) = .ok (some 10) := by decide +kernel
  rw [hpre] at hbefore
  obtain rfl := hbefore.unique Shows.absent.amountsTo
  obtain rfl := hafter.unique (entryAmount_eq_ok_iff.1 hpost).amountsTo
  exact absurd hexplains.amount_eq (by decide)

end TradeTracker

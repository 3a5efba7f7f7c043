import TradeTracker.Proofs.Trade.EntryOrder
import TradeTracker.Proofs.Transaction.Mirror

/-! Buying and selling are mirror images. A purchase played backwards is a sale of the same amount:
the movement is decided by which of two balances is larger, and the candidates for the other side
are the same ones, in another order, moving the other way. -/
namespace TradeTracker
open TransactionMeta

def TradeSide.mirror : TradeSide → TradeSide
  | buy => sell
  | sell => buy
  | receive => receive

private theorem TradeSide.mirror_ne_receive {side : TradeSide} (h : side ≠ .receive) :
    side.mirror ≠ .receive := by
  cases side with
  | receive => exact absurd rfl h
  | buy => decide
  | sell => decide

def Intent.mirror : Intent → Intent
  | none => none
  | likelyMint => likelyRedeem
  | likelyRedeem => likelyMint

def TradeEvidence.mirror : TradeEvidence → TradeEvidence
  | inferred intent => inferred intent.mirror
  | balanceDiff => balanceDiff
  | unknown => unknown

structure Movement.Mirrors (movement movement' : Movement) : Prop where
  side_ne : movement.side ≠ .receive
  side_eq : movement'.side = movement.side.mirror
  rawAmount_eq : movement.rawAmount = movement'.rawAmount
  evidence_eq : movement'.evidence = movement.evidence.mirror

/-- With a balance on either side the table is symmetric. -/
private theorem Movement.decision_mirror (called : Bool) (decimals decimals' : UInt8)
    (before after : UInt64) :
    Option.Rel Mirrors (decision called decimals (some before) (some after))
      (decision called decimals' (some after) (some before)) := by
  have hbuy : TradeSide.buy ≠ .receive := by decide
  have hsell : TradeSide.sell ≠ .receive := by decide
  rw [decision, decision]
  by_cases hup : before < after
  · rw [if_pos hup, if_neg (UInt64.lt_asymm hup), if_pos hup]
    refine .some ⟨hbuy, rfl, rfl, ?_⟩
    cases called <;> rfl
  by_cases hdown : after < before
  · rw [if_neg hup, if_pos hdown, if_pos hdown]
    refine .some ⟨hsell, rfl, rfl, ?_⟩
    cases called <;> rfl
  · rw [if_neg hup, if_neg hdown, if_neg hdown, if_neg hup]
    exact .none

namespace TransactionMeta
variable {m : TransactionMeta} {index : Nat} {mint other : Address} {entry : TokenBalance}

private theorem OneMintEach.holdsOnly (h : m.OneMintEach) (hentry : m.preEntry index = some entry) :
    m.HoldsOnly index entry.mint := by
  obtain ⟨hmem, hindex⟩ := of_firstEntry_eq_some hentry
  intro found hfound hindex'
  exact h found hfound entry (List.mem_append_left _ hmem)
    (UInt8.toNat_inj.1 (hindex'.trans hindex.symm))

private theorem HoldsOnly.tokenChangeOf_other (h : m.HoldsOnly index mint) (hne : mint ≠ other) :
    m.tokenChangeOf index other = .ok ⟨index, some other, none, none, 0⟩ := by
  have hnone {balances : List TokenBalance}
      (hmem : ∀ entry ∈ balances, entry ∈ m.preTokenBalances ++ m.postTokenBalances) :
      firstEntryOf? balances index other = none := by
    refine List.find?_eq_none.2 fun entry hentry hboth => ?_
    rw [decide_eq_true_eq] at hboth
    exact hne ((h entry (hmem entry hentry) hboth.1).symm.trans hboth.2)
  rw [tokenChangeOf_eq, preEntryOf, postEntryOf,
    hnone fun entry hentry => List.mem_append_left _ hentry,
    hnone fun entry hentry => List.mem_append_right _ hentry]
  rfl

private theorem HoldsOnly.mint_eq_of_postEntry {change : BalanceChange} (h : m.HoldsOnly index mint)
    (hentry : m.postEntry index = some entry) (hchange : m.tokenChange index = .ok change) :
    change.mint = some mint := by
  rw [tokenChange_eq] at hchange
  obtain ⟨before, after, -, -, rfl⟩ := entryChange_eq_ok_iff.1 hchange
  obtain ⟨hmem, hindex⟩ := of_firstEntry_eq_some hentry
  rw [hentry]
  exact congrArg some (h entry (List.mem_append_right _ hmem) hindex)

end TransactionMeta

namespace CounterAsset

/-- Assets of one kind and amount, both native or both tokens. -/
structure Alike (asset asset' : CounterAsset) : Prop where
  kind_eq : asset.identity.kind = asset'.identity.kind
  rawAmount_eq : asset.rawAmount = asset'.rawAmount
  isToken_eq : asset.identity.mint.isSome = asset'.identity.mint.isSome

variable {catalog : Catalog} {m : TransactionMeta} {target : Nat} {tracked : Address}
  {side : TradeSide} {changes changes' : List BalanceChange} {expected : Direction}

private theorem expectedDirection?_mirror (side : TradeSide) :
    expectedDirection? side.mirror = (expectedDirection? side).map Direction.mirror := by
  cases side <;> rfl

private theorem tokenMoves_mirror (h : List.Forall₂ BalanceChange.Mirrors changes changes')
    (target : Nat) (tracked : Address) (expected : Direction) :
    List.Forall₂ BalanceChange.Mirrors (tokenMoves changes target tracked expected)
      (tokenMoves changes' target tracked expected.mirror) := by
  refine List.rel_filter (fun change change' hmirror => ?_) h
  dsimp only
  rw [decide_eq_true_eq, decide_eq_true_eq, hmirror.index_eq, hmirror.mint_eq,
    hmirror.netDirection_eq, Direction.mirror_inj]

private theorem nativeMoves_mirror (m : TransactionMeta) (target : Nat) (expected : Direction) :
    List.Forall₂ BalanceChange.Mirrors (nativeMoves m target expected)
      (nativeMoves m.mirror target expected.mirror) := by
  refine List.rel_filter (fun change change' hmirror => ?_) m.nativeChanges_mirror
  dsimp only
  rw [decide_eq_true_eq, decide_eq_true_eq, hmirror.index_eq, hmirror.direction_eq,
    Direction.mirror_inj]

private theorem map_ofNative_mirror (m : TransactionMeta) (target : Nat) (expected : Direction) :
    (nativeMoves m target expected).map ofNative =
      (nativeMoves m.mirror target expected.mirror).map ofNative := by
  have hmoves := nativeMoves_mirror m target expected
  generalize nativeMoves m target expected = moves at hmoves ⊢
  generalize nativeMoves m.mirror target expected.mirror = moves' at hmoves ⊢
  induction hmoves with
  | nil => rfl
  | cons hmirror _ ih => rw [List.map_cons, List.map_cons, ofNative, ofNative, hmirror.size_eq, ih]

private theorem map_weight_ofToken? {change change' : BalanceChange} (h : change.Mirrors change')
    (catalog : Catalog) :
    (ofToken? catalog change).map weight = (ofToken? catalog change').map weight := by
  rw [ofToken?, ofToken?, ← h.mint_eq, Option.map_map, Option.map_map]
  refine congrArg (Option.map · change.mint) (funext fun mint => ?_)
  exact weight_eq_iff.2 ⟨rfl, h.size_eq.symm⟩

private theorem map_weight_tokenAssets (h : List.Forall₂ BalanceChange.Mirrors changes changes')
    (catalog : Catalog) (target : Nat) (tracked : Address) (expected : Direction) :
    (tokenAssets catalog target tracked expected changes).map weight =
      (tokenAssets catalog target tracked expected.mirror changes').map weight := by
  rw [tokenAssets, tokenAssets, List.map_filterMap, List.map_filterMap]
  have hmoves := tokenMoves_mirror h target tracked expected
  generalize tokenMoves changes target tracked expected = moves at hmoves ⊢
  generalize tokenMoves changes' target tracked expected.mirror = moves' at hmoves ⊢
  induction hmoves with
  | nil => rfl
  | cons hmirror _ ih =>
    rw [List.filterMap_cons, List.filterMap_cons, map_weight_ofToken? hmirror, ih]

private theorem isSome_mint_of_best? {asset : CounterAsset}
    (h : best? (tokenAssets catalog target tracked expected changes) = some asset) :
    asset.identity.mint.isSome = true := by
  obtain ⟨change, -, htoken⟩ := List.mem_filterMap.1 (mem_of_best? h)
  obtain ⟨mint, -, rfl⟩ := ofToken?_eq_some htoken
  rw [Catalog.mint_identify, Option.isSome_some]

private theorem best?_alike
    (h : ((tokenAssets catalog target tracked expected changes).map weight).Perm
      ((tokenAssets catalog target tracked expected.mirror changes').map weight)) :
    Option.Rel Alike (best? (tokenAssets catalog target tracked expected changes))
      (best? (tokenAssets catalog target tracked expected.mirror changes')) := by
  obtain ⟨hnone, hnone'⟩ | ⟨token, token', htoken, htoken', hweight⟩ :=
    Outcome.rel_cases (rel_of_map_weight_eq (map_best?_of_perm h))
  · rw [hnone, hnone']
    exact .none
  · rw [htoken, htoken']
    obtain ⟨hkind, hamount⟩ := weight_eq_iff.1 hweight
    refine .some ⟨hkind, hamount, ?_⟩
    rw [isSome_mint_of_best? htoken, isSome_mint_of_best? htoken']

/-- The other side is resolved for both or neither, with assets that are alike. Lamports come in one
order on both, tokens in two, so of the best token only its weight is known. -/
private theorem resolve_mirror (h : m.OneMintEach) (catalog : Catalog) (target : Nat)
    (tracked : Address) (side : TradeSide) :
    Outcome.Alike Alike (resolve catalog m target tracked side)
      (resolve catalog m.mirror target tracked side.mirror) := by
  have hmirror := expectedDirection?_mirror side
  cases hexpected : expectedDirection? side with
  | none =>
    rw [hexpected] at hmirror
    rw [resolve, resolve, hexpected, hmirror]
    exact .ok ⟨rfl, rfl, rfl⟩
  | some expected =>
    rw [hexpected] at hmirror
    rw [resolve_of_expected hexpected, resolve_of_expected hmirror]
    refine (tokenChanges_mirror h).map ?_
    rintro changes changes' ⟨images, himages, hperm⟩
    rw [← map_ofNative_mirror]
    refine settle_rel (fun _ => ⟨rfl, rfl, rfl⟩) (fun _ _ halike => halike.rawAmount_eq) ?_ _
    refine best?_alike ?_
    rw [map_weight_tokenAssets himages]
    exact ((hperm.filter _).filterMap (ofToken? catalog)).map weight

end CounterAsset

namespace Registry
variable {registry : Registry} {snapshot : TransactionSnapshot} {m : TransactionMeta}
  {account : Address} {index : Nat}

/-- The asset that was resolved for the other side of a trade is on record in it. -/
structure Chooses (registry : Registry) (m : TransactionMeta) (index : Nat) (trade : Trade)
    (counter : CounterAsset) : Prop where
  resolve_eq : CounterAsset.resolve registry.catalog m index registry.catalog.leveraged.mint
    trade.side = .ok counter
  counterSymbol_eq : trade.counterSymbol = some counter.identity.symbol
  counterMint_eq : trade.counterMint = counter.identity.mint
  counterRawAmount_eq : trade.counterRawAmount = some counter.rawAmount

/-- A trade on `m` and one on `m` backwards: as much of the tracked token the other way, against as
much of an asset of the same kind, on the same evidence but for its direction. -/
structure Mirrors (registry : Registry) (m : TransactionMeta) (index : Nat) (trade trade' : Trade) :
    Prop where
  side_ne : trade.side ≠ .receive
  side_eq : trade'.side = trade.side.mirror
  rawAmount_eq : trade.rawAmount = trade'.rawAmount
  counterRawAmount_eq : trade.counterRawAmount = trade'.counterRawAmount
  evidence_eq : trade'.evidence = trade.evidence.mirror
  counters : ∃ counter counter', registry.Chooses m index trade counter ∧
    registry.Chooses m.mirror index trade' counter' ∧
    counter.identity.kind = counter'.identity.kind ∧
    (counter.identity.mint.isSome ↔ counter'.identity.mint.isSome)

private theorem chooses_tradeOf {movement : Movement} {counter : CounterAsset}
    (h : CounterAsset.resolve registry.catalog m index registry.catalog.leveraged.mint
      movement.side = .ok counter) :
    registry.Chooses m index (registry.tradeOf snapshot movement (some counter)) counter :=
  ⟨h, rfl, rfl, rfl⟩

private theorem movement_of_other_mint {entry : TokenBalance} {mint : Address}
    (hmeta : snapshot.metadata = some m) (honly : m.HoldsOnly index mint)
    (hmint : mint ≠ registry.catalog.leveraged.mint) (hentry : m.postEntry index = some entry) :
    registry.movement snapshot m index = (m.tokenChange index).map fun _ => none := by
  have hintent : snapshot.intent registry.programs index registry.catalog.leveraged.mint =
      .ok .none := by
    cases hcalled : snapshot.callsExchange registry.programs with
    | false => exact intent_of_not_called _ _ hcalled
    | true =>
      rw [intent_of_called _ _ hmeta hcalled, honly.tokenChangeOf_other hmint]
      rfl
  rw [movement_of_intent hintent, if_pos rfl]
  cases hchange : m.tokenChange index with
  | error e => rfl
  | ok change =>
    rw [Except.map, Except.map, Movement.ofChangeIn?, honly.mint_eq_of_postEntry hentry hchange,
      if_neg]
    rw [Option.all_some, decide_eq_true_eq]
    exact hmint

private theorem movement_mirror_of_tracked {pre post : TokenBalance}
    (hmeta : snapshot.metadata = some m) (hmeta' : snapshot.mirror.metadata = some m.mirror)
    (honly : m.HoldsOnly index registry.catalog.leveraged.mint)
    (honly' : m.mirror.HoldsOnly index registry.catalog.leveraged.mint)
    (hpre : m.preEntry index = some pre) (hpost : m.postEntry index = some post) :
    Outcome.Alike (Option.Rel Movement.Mirrors) (registry.movement snapshot m index)
      (registry.movement snapshot.mirror m.mirror index) := by
  by_cases hread : (∃ before, Shows (m.preEntry index) before) ∧
      ∃ after, Shows (m.postEntry index) after
  · obtain ⟨⟨before, hbefore⟩, after, hafter⟩ := hread
    rw [movement_eq_decision hmeta honly hbefore hafter,
      movement_eq_decision hmeta' honly' hafter hbefore]
    rw [hpre] at hbefore
    rw [hpost] at hafter
    cases hbefore
    cases hafter
    exact .ok (Movement.decision_mirror _ _ _ _ _)
  · rw [not_and_or] at hread
    obtain ⟨e, he⟩ := exists_movement_error hmeta honly hread
    obtain ⟨e', he'⟩ := exists_movement_error hmeta' honly' hread.symm
    rw [he, he']
    exact .error e e'

private theorem movement_mirror (registry : Registry) {pre post : TokenBalance}
    (hmeta : snapshot.metadata = some m) (hmeta' : snapshot.mirror.metadata = some m.mirror)
    (h : m.OneMintEach) (hpre : m.preEntry index = some pre)
    (hpost : m.postEntry index = some post) :
    Outcome.Alike (Option.Rel Movement.Mirrors) (registry.movement snapshot m index)
      (registry.movement snapshot.mirror m.mirror index) := by
  have honly : m.HoldsOnly index pre.mint := h.holdsOnly hpre
  have honly' : m.mirror.HoldsOnly index pre.mint := by
    rw [h.mint_eq hpre hpost]
    exact h.mirror.holdsOnly hpost
  by_cases hmint : pre.mint = registry.catalog.leveraged.mint
  · rw [hmint] at honly honly'
    exact movement_mirror_of_tracked hmeta hmeta' honly honly' hpre hpost
  · rw [movement_of_other_mint hmeta honly hmint hpost,
      movement_of_other_mint hmeta' honly' hmint hpre]
    exact (tokenChange_mirror h index).map fun _ _ _ => .none

private theorem trade?_mirror (registry : Registry) {pre post : TokenBalance}
    (hmeta : snapshot.metadata = some m) (hmeta' : snapshot.mirror.metadata = some m.mirror)
    (h : m.OneMintEach) (hpre : m.preEntry index = some pre)
    (hpost : m.postEntry index = some post) :
    Outcome.Alike (Option.Rel (registry.Mirrors m index)) (registry.trade? snapshot m index)
      (registry.trade? snapshot.mirror m.mirror index) := by
  obtain ⟨moved, moved', hmoved, hmoved', hrel⟩ | ⟨e, e', he, he'⟩ :=
    (movement_mirror registry hmeta hmeta' h hpre hpost).cases
  · obtain ⟨rfl, rfl⟩ | ⟨movement, movement', rfl, rfl, hmirror⟩ := Outcome.rel_cases hrel
    · rw [trade?_of_unmoved hmoved, trade?_of_unmoved hmoved']
      exact .ok .none
    · have hside : movement'.side ≠ .receive := by
        rw [hmirror.side_eq]
        exact TradeSide.mirror_ne_receive hmirror.side_ne
      rw [trade?_of_movement hmoved, trade?_of_movement hmoved',
        counter_of_ne_receive registry hmirror.side_ne, counter_of_ne_receive registry hside]
      have hresolve := CounterAsset.resolve_mirror h registry.catalog index
        registry.catalog.leveraged.mint movement.side
      rw [← hmirror.side_eq] at hresolve
      obtain ⟨counter, counter', hcounter, hcounter', halike⟩ | ⟨e, e', he, he'⟩ := hresolve.cases
      · rw [hcounter, hcounter']
        refine .ok (.some ⟨hmirror.side_ne, hmirror.side_eq, hmirror.rawAmount_eq,
          congrArg some halike.rawAmount_eq, hmirror.evidence_eq, ?_⟩)
        exact ⟨counter, counter', chooses_tradeOf hcounter, chooses_tradeOf hcounter',
          halike.kind_eq, by rw [halike.isToken_eq]⟩
      · rw [he, he']
        exact .error e e'
  · rw [trade?_of_error he, trade?_of_error he']
    exact .error e e'

private theorem classifyAccount_alike (registry : Registry) {pre post : TokenBalance}
    (hmeta : snapshot.metadata = some m) (h : m.OneMintEach)
    (hindex : snapshot.accountIndex? account = some index) (hpre : m.preEntry index = some pre)
    (hpost : m.postEntry index = some post) :
    ∃ result result', registry.classifyAccount snapshot account = .ok result ∧
      registry.classifyAccount snapshot.mirror account = .ok result' ∧
      TradeResult.Alike (registry.Mirrors m index) result result' := by
  have hmeta' : snapshot.mirror.metadata = some m.mirror := by
    rw [TransactionSnapshot.mirror, hmeta, Option.map_some]
  have hindex' : snapshot.mirror.accountIndex? account = some index := hindex
  by_cases herror : m.error = none
  · have herror' : m.mirror.error = none := herror
    rw [classifyAccount_of_index hmeta herror hindex,
      classifyAccount_of_index hmeta' herror' hindex']
    obtain ⟨found, found', hfound, hfound', hrel⟩ | ⟨e, e', he, he'⟩ :=
      (trade?_mirror registry hmeta hmeta' h hpre hpost).cases
    · rw [hfound, hfound']
      cases hrel with
      | none => exact ⟨_, _, rfl, rfl, .notATrade⟩
      | some hmirror => exact ⟨_, _, rfl, rfl, .trade hmirror⟩
    · rw [he, he']
      exact ⟨_, _, rfl, rfl, .error _ _⟩
  · have herror' : m.mirror.error ≠ none := herror
    exact ⟨_, _, classifyAccount_of_failed hmeta herror, classifyAccount_of_failed hmeta' herror',
      .error _ _⟩

/-- A purchase backwards is a sale, and the two are mirror images; what is no trade backwards or
cannot be read backwards is none or cannot be read as it is. One entry for an account on either side
is the usual case, but all that matters is that its entries are of one mint. -/
theorem classifyAccount_mirror (registry : Registry) (hmeta : snapshot.metadata = some m)
    (h : m.OneMintEach) (hindex : snapshot.accountIndex? account = some index)
    (hpre : ∃ entry, m.preEntry index = some entry)
    (hpost : ∃ entry, m.postEntry index = some entry) :
    ((∃ trade, registry.classifyAccount snapshot account = .ok (.trade trade) ∧
        trade.side = .buy) ↔
      ∃ trade', registry.classifyAccount snapshot.mirror account = .ok (.trade trade') ∧
        trade'.side = .sell) ∧
    (∀ trade trade', registry.classifyAccount snapshot account = .ok (.trade trade) →
      registry.classifyAccount snapshot.mirror account = .ok (.trade trade') →
      trade.side = .buy → registry.Mirrors m index trade trade') ∧
    (registry.classifyAccount snapshot account = .ok .notATrade ↔
      registry.classifyAccount snapshot.mirror account = .ok .notATrade) ∧
    ((∃ message, registry.classifyAccount snapshot account = .ok (.error message)) ↔
      ∃ message, registry.classifyAccount snapshot.mirror account = .ok (.error message)) := by
  obtain ⟨pre, hpre⟩ := hpre
  obtain ⟨post, hpost⟩ := hpost
  obtain ⟨result, result', hresult, hresult', halike⟩ :=
    classifyAccount_alike registry hmeta h hindex hpre hpost
  rw [hresult, hresult']
  cases halike with
  | notATrade => simp
  | error message message' => simp
  | @trade trade trade' hmirror =>
    have hsides : trade.side = .buy ↔ trade'.side = .sell := by
      rw [hmirror.side_eq]
      cases trade.side <;> simp [TradeSide.mirror]
    refine ⟨by simpa using hsides, ?_, by simp, by simp⟩
    rintro _ _ ⟨⟩ ⟨⟩ -
    exact hmirror

/-- Two tracked units for four stable ones by a call to the exchange, in accounts that were there
before. The entries of the two sides come in different orders. -/
def toppedUpMeta : TransactionMeta :=
  ⟨none, [9000, 9000, 9000], [9000, 2000, 9000],
    [⟨0, .filled 4, "1000000", 6⟩, ⟨1, .filled 3, "5000000", 6⟩],
    [⟨1, .filled 3, "1000000", 6⟩, ⟨0, .filled 4, "3000000", 6⟩]⟩

def toppedUp : TransactionSnapshot where
  signature := "5VERv8"
  slot := 287654321
  blockTime := some 1722470400
  accountKeys := [.filled 5, .filled 6, .filled 1]
  invocations := [⟨2, [0], "", 0⟩]
  metadata := some toppedUpMeta

theorem classifyAccount_mirror_toppedUp :
    toppedUp.metadata = some toppedUpMeta ∧ toppedUpMeta.OneMintEach ∧
      toppedUp.accountIndex? (.filled 5) = some 0 ∧
      (∃ entry, toppedUpMeta.preEntry 0 = some entry) ∧
      (∃ entry, toppedUpMeta.postEntry 0 = some entry) ∧
      ∃ trade trade', smallest.classifyAccount toppedUp (.filled 5) = .ok (.trade trade) ∧
        trade.side = .buy ∧
        smallest.classifyAccount toppedUp.mirror (.filled 5) = .ok (.trade trade') ∧
        trade'.side = .sell ∧ smallest.Mirrors toppedUpMeta 0 trade trade' := by
  have hone : toppedUpMeta.OneMintEach := by
    unfold OneMintEach
    decide
  have hindex : toppedUp.accountIndex? (.filled 5) = some 0 := by decide
  have hpre : ∃ entry, toppedUpMeta.preEntry 0 = some entry := ⟨_, rfl⟩
  have hpost : ∃ entry, toppedUpMeta.postEntry 0 = some entry := ⟨_, rfl⟩
  have hbought : (smallest.classifyAccount toppedUp (.filled 5)).map (·.trade?.map (·.side)) =
      .ok (some .buy) := by decide +kernel
  obtain ⟨result, hresult, hside⟩ := Outcome.map_eq_ok.1 hbought
  obtain ⟨trade, htrade, hbuy⟩ := Option.map_eq_some_iff.1 hside
  cases result with
  | notATrade => cases htrade
  | error message => cases htrade
  | trade found =>
    cases htrade
    obtain ⟨hiff, hmirrors, -, -⟩ :=
      classifyAccount_mirror smallest rfl hone hindex hpre hpost
    obtain ⟨trade', hresult', hsell⟩ := hiff.1 ⟨trade, hresult, hbuy⟩
    exact ⟨rfl, hone, hindex, hpre, hpost, trade, trade', hresult, hbuy, hresult', hsell,
      hmirrors trade trade' hresult hresult' hbuy⟩

end Registry
end TradeTracker

import TradeTracker.Proofs.Trade.Candidate
import TradeTracker.Proofs.Trade.Decision

/-! Token entries come in no order, and classification hardly sees the one they are in. Everything
read off one account is the same in every order. What is read off all of them is a maximum, which
the order decides only where two accounts tie for it. -/
namespace TradeTracker

/-- The same in all but the order of the token entries on either side. -/
structure TransactionSnapshot.Reordered (snapshot snapshot' : TransactionSnapshot) : Prop where
  signature_eq : snapshot.signature = snapshot'.signature
  slot_eq : snapshot.slot = snapshot'.slot
  blockTime_eq : snapshot.blockTime = snapshot'.blockTime
  accountKeys_eq : snapshot.accountKeys = snapshot'.accountKeys
  invocations_eq : snapshot.invocations = snapshot'.invocations
  metadata_rel : Option.Rel TransactionMeta.Reordered snapshot.metadata snapshot'.metadata

/-- Answers of one kind, with trades that are related where both are trades. -/
inductive TradeResult.Alike (R : Trade → Trade → Prop) : TradeResult → TradeResult → Prop
  | trade {trade trade' : Trade} (h : R trade trade') : Alike R (.trade trade) (.trade trade')
  | notATrade : Alike R .notATrade .notATrade
  | error (message message' : String) : Alike R (.error message) (.error message')

/-- Two trades agree on what moved, how that is known and how much came back for it. -/
structure Trade.AgreesWith (trade trade' : Trade) : Prop where
  side_eq : trade.side = trade'.side
  amount_eq : trade.amount = trade'.amount
  rawAmount_eq : trade.rawAmount = trade'.rawAmount
  evidence_eq : trade.evidence = trade'.evidence
  counterRawAmount_eq : trade.counterRawAmount = trade'.counterRawAmount

namespace Registry
variable {registry : Registry} {snapshot snapshot' : TransactionSnapshot} {m m' : TransactionMeta}

/-- No two accounts tie for the other side of a trade of `account`. -/
def Untied (registry : Registry) (snapshot : TransactionSnapshot) (account : Address)
    (side : TradeSide) : Prop :=
  ∀ m index, snapshot.metadata = some m → snapshot.accountIndex? account = some index →
    CounterAsset.Untied registry.catalog m index registry.catalog.leveraged.mint side

private theorem callsExchange_eq_of_reordered (h : snapshot.Reordered snapshot')
    (programs : ProtocolPrograms) :
    snapshot.callsExchange programs = snapshot'.callsExchange programs := by
  rw [Bool.eq_iff_iff, callsExchange_iff, callsExchange_iff, h.invocations_eq, h.accountKeys_eq]

private theorem tradeOf_eq_of_reordered (h : snapshot.Reordered snapshot') (movement : Movement)
    (counter : Option CounterAsset) :
    registry.tradeOf snapshot movement counter = registry.tradeOf snapshot' movement counter := by
  simp only [tradeOf, TransactionSnapshot.timestamp, h.signature_eq, h.slot_eq, h.blockTime_eq]

private theorem counter_alike (hm : m.Reordered m') (hone : m.OneEntryEach) (registry : Registry)
    (index : Nat) (side : TradeSide) :
    Outcome.Alike (fun counter counter' =>
        counter.map (·.rawAmount) = counter'.map (·.rawAmount) ∧
          (CounterAsset.Untied registry.catalog m index registry.catalog.leveraged.mint side →
            counter = counter'))
      (registry.counter m index side) (registry.counter m' index side) := by
  by_cases hside : side = .receive
  · subst hside
    exact .ok ⟨rfl, fun _ => rfl⟩
  · rw [counter_of_ne_receive registry hside, counter_of_ne_receive registry hside]
    refine (CounterAsset.resolve_alike hm hone registry.catalog index
      registry.catalog.leveraged.mint side).map ?_
    rintro counter counter' ⟨hamount, huntied⟩
    exact ⟨congrArg some hamount, fun h => congrArg some (huntied h)⟩

private theorem trade?_alike (h : snapshot.Reordered snapshot') (hm : m.Reordered m')
    (hone : m.OneEntryEach) (hmeta : snapshot.metadata = some m)
    (hmeta' : snapshot'.metadata = some m') (registry : Registry) (index : Nat) :
    Outcome.Alike (Option.Rel fun trade trade' => trade.AgreesWith trade' ∧
        (CounterAsset.Untied registry.catalog m index registry.catalog.leveraged.mint trade.side →
          trade = trade'))
      (registry.trade? snapshot m index) (registry.trade? snapshot' m' index) := by
  have hmovement : registry.movement snapshot m index = registry.movement snapshot' m' index :=
    movement_congr hmeta hmeta' (callsExchange_eq_of_reordered h registry.programs)
      (hm.sameFirst hone index).tokenChange_eq (hm.sameFirst hone index).tokenChangeOf_eq
  cases hmoved : registry.movement snapshot m index with
  | error e =>
    rw [trade?_of_error hmoved, trade?_of_error (hmovement.symm.trans hmoved)]
    exact .error e e
  | ok moved =>
    cases moved with
    | none =>
      rw [trade?_of_unmoved hmoved, trade?_of_unmoved (hmovement.symm.trans hmoved)]
      exact .ok .none
    | some movement =>
      rw [trade?_of_movement hmoved, trade?_of_movement (hmovement.symm.trans hmoved)]
      refine (counter_alike hm hone registry index movement.side).map ?_
      rintro counter counter' ⟨hamount, huntied⟩
      rw [tradeOf_eq_of_reordered h]
      refine .some ⟨⟨rfl, rfl, rfl, rfl, hamount⟩, fun hties => ?_⟩
      rw [huntied hties]

/-- Entries in another order give an answer of the same kind. A trade agrees with the one before,
and is the same one unless two accounts tie for its other side. -/
theorem classifyAccount_reordered {account : Address} (h : snapshot.Reordered snapshot')
    (hone : ∀ m ∈ snapshot.metadata, m.OneEntryEach) :
    Outcome.Alike (TradeResult.Alike fun trade trade' => trade.AgreesWith trade' ∧
        (registry.Untied snapshot account trade.side → trade = trade'))
      (registry.classifyAccount snapshot account) (registry.classifyAccount snapshot' account) := by
  have hindex : snapshot.accountIndex? account = snapshot'.accountIndex? account := by
    rw [TransactionSnapshot.accountIndex?, TransactionSnapshot.accountIndex?, h.accountKeys_eq]
  obtain ⟨hmeta, hmeta'⟩ | ⟨m, m', hmeta, hmeta', hm⟩ :=
    Outcome.rel_cases h.metadata_rel
  · rw [classifyAccount_of_no_metadata hmeta, classifyAccount_of_no_metadata hmeta']
    exact .error _ _
  by_cases herror : m.error = none
  · have herror' : m'.error = none := hm.error_eq.symm.trans herror
    cases hposition : snapshot.accountIndex? account with
    | none =>
      rw [classifyAccount_of_unlisted hmeta herror hposition,
        classifyAccount_of_unlisted hmeta' herror' (hindex.symm.trans hposition)]
      exact .ok .notATrade
    | some index =>
      rw [classifyAccount_of_index hmeta herror hposition,
        classifyAccount_of_index hmeta' herror' (hindex.symm.trans hposition)]
      have hone := hone m hmeta
      obtain ⟨moved, moved', hmoved, hmoved', hrel⟩ | ⟨e, e', hfailed, hfailed'⟩ :=
        (trade?_alike h hm hone hmeta hmeta' registry index).cases
      · rw [hmoved, hmoved']
        cases hrel with
        | none => exact .ok .notATrade
        | some hagree =>
          refine .ok (.trade ⟨hagree.1, fun huntied => hagree.2 ?_⟩)
          exact huntied m index hmeta hposition
      · rw [hfailed, hfailed']
        exact .ok (.error _ _)
  · have herror' : m'.error ≠ none := fun hnone => herror (hm.error_eq.trans hnone)
    rw [classifyAccount_of_failed hmeta herror, classifyAccount_of_failed hmeta' herror']
    exact .ok (.error _ _)

def scatteredMeta : TransactionMeta :=
  ⟨none, [], [], [⟨0, .filled 4, "3000000", 6⟩, ⟨1, .filled 6, "0", 6⟩],
    [⟨0, .filled 4, "1000000", 6⟩, ⟨1, .filled 6, "4000000", 6⟩, ⟨2, .filled 7, "5000000", 6⟩]⟩

def scattered : TransactionSnapshot where
  signature := "5VERv8"
  slot := 287654321
  blockTime := some 1722470400
  accountKeys := [.filled 5, .filled 6, .filled 7]
  invocations := []
  metadata := some scatteredMeta

def scatteredBack : TransactionSnapshot :=
  { scattered with metadata := some { scatteredMeta with
      preTokenBalances := scatteredMeta.preTokenBalances.reverse
      postTokenBalances := scatteredMeta.postTokenBalances.reverse } }

private theorem scattered_reordered : scattered.Reordered scatteredBack where
  signature_eq := rfl
  slot_eq := rfl
  blockTime_eq := rfl
  accountKeys_eq := rfl
  invocations_eq := rfl
  metadata_rel := .some ⟨rfl, rfl, rfl, (List.reverse_perm _).symm, (List.reverse_perm _).symm⟩

private theorem untied_scattered : smallest.Untied scattered (.filled 5) .sell := by
  intro m position hmeta hposition
  cases hmeta
  have hfirst : scattered.accountIndex? (.filled 5) = some 0 := by decide
  cases hfirst.symm.trans hposition
  rintro index other a b ⟨_, changes, ⟨⟩, hchanges, change, hchange, rfl, ha⟩
    ⟨_, changes', ⟨⟩, hchanges', change', hchange', rfl, hb⟩ hindex ⟨-, hamount⟩
  cases hchanges.symm.trans hchanges'
  have hmoves : scatteredMeta.tokenChanges.map
      (CounterAsset.tokenMoves · 0 smallest.catalog.leveraged.mint .increase) =
        .ok [⟨1, some (.filled 6), some 0, some 4000000, 6⟩,
          ⟨2, some (.filled 7), none, some 5000000, 6⟩] := by decide +kernel
  obtain ⟨_, hread, hmoves⟩ := Outcome.map_eq_ok.1 hmoves
  cases hchanges.symm.trans hread
  rw [hmoves] at hchange hchange'
  obtain ⟨_, -, rfl⟩ := CounterAsset.ofToken?_eq_some ha
  obtain ⟨_, -, rfl⟩ := CounterAsset.ofToken?_eq_some hb
  replace hamount : change.size = change'.size := hamount
  rcases List.mem_pair.1 hchange with rfl | rfl <;> rcases List.mem_pair.1 hchange' with rfl | rfl
  · exact hindex rfl
  · exact absurd hamount (by decide)
  · exact absurd hamount (by decide)
  · exact hindex rfl

theorem classifyAccount_reordered_scattered :
    scattered.Reordered scatteredBack ∧ (∀ m ∈ scattered.metadata, m.OneEntryEach) ∧
      smallest.Untied scattered (.filled 5) .sell ∧
      (smallest.classifyAccount scattered (.filled 5)).map (·.trade?.map (·.side)) =
        .ok (some .sell) ∧
      Outcome.Alike (TradeResult.Alike fun trade trade' => trade.AgreesWith trade' ∧
          (smallest.Untied scattered (.filled 5) trade.side → trade = trade'))
        (smallest.classifyAccount scattered (.filled 5))
        (smallest.classifyAccount scatteredBack (.filled 5)) := by
  have hone : ∀ m ∈ scattered.metadata, m.OneEntryEach := by
    rintro m ⟨⟩
    exact ⟨by decide, by decide⟩
  exact ⟨scattered_reordered, hone, untied_scattered, by decide +kernel,
    classifyAccount_reordered scattered_reordered hone⟩

end Registry
end TradeTracker

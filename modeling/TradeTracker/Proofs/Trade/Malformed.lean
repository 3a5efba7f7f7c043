import TradeTracker.Proofs.Trade.Candidate
import TradeTracker.Proofs.Trade.Decision

/-! Amounts that are no numbers. Where every amount is one nothing fails. The movement of an account
hangs on that account's entries alone, and only the other side of an exchange looks at all the
accounts, and then at every first entry they have. -/
namespace TradeTracker
open TransactionMeta

/-- The same entry, with any amount at all where its account is not at `target`. -/
def TokenBalance.Rewritten (target : Option Nat) (entry entry' : TokenBalance) : Prop :=
  ∃ amount, entry' = { entry with amount := amount } ∧
    (target = some entry.accountIndex.toNat → amount = entry.amount)

def TransactionMeta.withTokens (m : TransactionMeta) (pre post : List TokenBalance) :
    TransactionMeta :=
  { m with preTokenBalances := pre, postTokenBalances := post }

def TransactionSnapshot.withMeta (snapshot : TransactionSnapshot) (m : TransactionMeta) :
    TransactionSnapshot :=
  { snapshot with metadata := some m }

namespace TransactionMeta
variable {m : TransactionMeta} {index : Nat}

section Rewritten
variable {balances balances' : List TokenBalance}

/-- A search that is for one account and not by amount finds what it found before. -/
private theorem firstPassing?_rewritten
    (h : List.Forall₂ (TokenBalance.Rewritten (some index)) balances balances')
    (test : Address → Bool) :
    firstPassing? balances index test = firstPassing? balances' index test := by
  unfold firstPassing?
  induction h with
  | nil => rfl
  | @cons entry entry' balances balances' hentry _ ih =>
    obtain ⟨amount, rfl, hsame⟩ := hentry
    rw [List.find?_cons, List.find?_cons]
    dsimp only
    by_cases hpasses : entry.accountIndex.toNat = index ∧ test entry.mint = true
    · rw [hsame (congrArg some hpasses.1.symm), decide_eq_true hpasses]
    · rw [decide_eq_false hpasses]
      exact ih

private theorem sameFirst_withTokens {pre post : List TokenBalance}
    (hpre : List.Forall₂ (TokenBalance.Rewritten (some index)) m.preTokenBalances pre)
    (hpost : List.Forall₂ (TokenBalance.Rewritten (some index)) m.postTokenBalances post) :
    SameFirst index m (m.withTokens pre post) where
  pre_eq := firstPassing?_rewritten hpre
  post_eq := firstPassing?_rewritten hpost

end Rewritten

end TransactionMeta

theorem CounterAsset.exists_expectedDirection {side : TradeSide} (h : side ≠ .receive) :
    ∃ expected, expectedDirection? side = some expected := by
  cases side with
  | receive => exact absurd rfl h
  | buy => exact ⟨_, rfl⟩
  | sell => exact ⟨_, rfl⟩

namespace Registry
variable {registry : Registry} {snapshot : TransactionSnapshot} {m : TransactionMeta} {index : Nat}
  {account : Address} {result : TradeResult} {trade : Trade}

private theorem exists_movement (registry : Registry) (index : Nat)
    (hmeta : snapshot.metadata = some m) (h : m.Readable) :
    ∃ moved, registry.movement snapshot m index = .ok moved := by
  have hfollowed {intent : Intent} (hintent : snapshot.intent registry.programs index
      registry.catalog.leveraged.mint = .ok intent) :
      ∃ moved, registry.movement snapshot m index = .ok moved := by
    rw [movement_of_intent hintent]
    obtain ⟨change, hchange⟩ := h.tokenChange index
    obtain ⟨changeOf, hchangeOf⟩ := h.tokenChangeOf index registry.catalog.leveraged.mint
    rw [hchange, hchangeOf]
    split_ifs
    · exact ⟨_, rfl⟩
    · exact ⟨_, rfl⟩
  cases hcalled : snapshot.callsExchange registry.programs with
  | false => exact hfollowed (intent_of_not_called _ _ hcalled)
  | true =>
    obtain ⟨change, hchange⟩ := h.tokenChangeOf index registry.catalog.leveraged.mint
    have hintent := intent_of_called index registry.catalog.leveraged.mint hmeta hcalled
    rw [hchange] at hintent
    exact hfollowed hintent

private theorem exists_counter (registry : Registry) (index : Nat) (h : m.Readable)
    (side : TradeSide) :
    ∃ counter, registry.counter m index side = .ok counter := by
  by_cases hside : side = .receive
  · subst hside
    exact ⟨none, rfl⟩
  · obtain ⟨changes, hchanges⟩ := h.tokenChanges
    obtain ⟨expected, hexpected⟩ := CounterAsset.exists_expectedDirection hside
    rw [counter_of_ne_receive registry hside, CounterAsset.resolve_of_expected hexpected, hchanges]
    exact ⟨_, rfl⟩

private theorem exists_trade? (registry : Registry) (index : Nat)
    (hmeta : snapshot.metadata = some m) (h : m.Readable) :
    ∃ found, registry.trade? snapshot m index = .ok found := by
  obtain ⟨moved, hmoved⟩ := exists_movement registry index hmeta h
  cases moved with
  | none => exact ⟨none, trade?_of_unmoved hmoved⟩
  | some movement =>
    obtain ⟨counter, hcounter⟩ := exists_counter registry index h movement.side
    rw [trade?_of_movement hmoved, hcounter]
    exact ⟨_, rfl⟩

private theorem exists_classifyAccount (registry : Registry) (account : Address)
    (hmeta : snapshot.metadata = some m) (herror : m.error = none) :
    ∃ result, registry.classifyAccount snapshot account = .ok result := by
  cases hindex : snapshot.accountIndex? account with
  | none => exact ⟨_, classifyAccount_of_unlisted hmeta herror hindex⟩
  | some index =>
    rw [classifyAccount_of_index hmeta herror hindex]
    split
    · exact ⟨_, rfl⟩
    · exact ⟨_, rfl⟩
    · exact ⟨_, rfl⟩

private theorem not_readable_of_error {message : String} (hmeta : snapshot.metadata = some m)
    (herror : m.error = none)
    (h : registry.classifyAccount snapshot account = .ok (.error message)) : ¬ m.Readable := by
  intro hreadable
  cases hindex : snapshot.accountIndex? account with
  | none =>
    rw [classifyAccount_of_unlisted hmeta herror hindex] at h
    cases h
  | some index =>
    obtain ⟨found, hfound⟩ := exists_trade? registry index hmeta hreadable
    rw [classifyAccount_of_index hmeta herror hindex, hfound] at h
    cases found with
    | none => cases h
    | some trade => cases h

/-- A purchase or a sale has looked at the first entries of every account. -/
private theorem wellFormed_of_exchange {entry : TokenBalance} (hmeta : snapshot.metadata = some m)
    (h : registry.classifyAccount snapshot account = .ok (.trade trade))
    (hside : trade.side ≠ .receive)
    (hentry : m.preEntry index = some entry ∨ m.postEntry index = some entry) :
    entry.WellFormed := by
  obtain ⟨m', position, hmeta', -, htrade⟩ := classifyAccount_eq_trade h
  cases hmeta.symm.trans hmeta'
  obtain ⟨movement, counter, -, hcounter, rfl⟩ := trade?_eq_some htrade
  have hmoved : movement.side ≠ .receive := hside
  obtain ⟨expected, hexpected⟩ := CounterAsset.exists_expectedDirection hmoved
  rw [counter_of_ne_receive registry hmoved, CounterAsset.resolve_of_expected hexpected] at hcounter
  obtain ⟨asset, hasset, -⟩ := Outcome.map_eq_ok.1 hcounter
  obtain ⟨changes, hchanges, -⟩ := Outcome.map_eq_ok.1 hasset
  exact wellFormed_of_tokenChanges hchanges hentry

/-- Neither a trade nor an error, or tokens that only came in. -/
def Unexchanged (result : TradeResult) : Prop :=
  result = .notATrade ∨ ∃ trade, result = .trade trade ∧ trade.side = .receive

private theorem trade?_of_unexchanged {moved : Option Movement}
    (h : registry.movement snapshot m index = .ok moved)
    (hside : ∀ movement ∈ moved, movement.side = .receive) :
    registry.trade? snapshot m index =
      .ok (moved.map fun movement => registry.tradeOf snapshot movement none) := by
  cases moved with
  | none => exact trade?_of_unmoved h
  | some movement =>
    rw [trade?_of_movement h, hside movement rfl]
    rfl

private theorem movement_of_unexchanged (hmeta : snapshot.metadata = some m)
    (herror : m.error = none) (hindex : snapshot.accountIndex? account = some index)
    (h : registry.classifyAccount snapshot account = .ok result) (hresult : Unexchanged result) :
    ∃ moved, registry.movement snapshot m index = .ok moved ∧
      ∀ movement ∈ moved, movement.side = .receive := by
  rw [classifyAccount_of_index hmeta herror hindex] at h
  cases hmoved : registry.movement snapshot m index with
  | error e =>
    rw [trade?_of_error hmoved] at h
    cases h
    obtain hresult | ⟨_, hresult, -⟩ := hresult <;> cases hresult
  | ok moved =>
    refine ⟨moved, rfl, ?_⟩
    rintro movement ⟨⟩
    rw [trade?_of_movement hmoved] at h
    cases hcounter : registry.counter m index movement.side with
    | error e =>
      rw [hcounter] at h
      cases h
      obtain hresult | ⟨_, hresult, -⟩ := hresult <;> cases hresult
    | ok counter =>
      rw [hcounter] at h
      cases h
      obtain hresult | ⟨_, hresult, hside⟩ := hresult
      · cases hresult
      · cases hresult
        exact hside

private theorem classifyAccount_withTokens {pre post : List TokenBalance}
    (hmeta : snapshot.metadata = some m) (herror : m.error = none)
    (h : registry.classifyAccount snapshot account = .ok result) (hresult : Unexchanged result)
    (hpre : List.Forall₂ (TokenBalance.Rewritten (snapshot.accountIndex? account))
      m.preTokenBalances pre)
    (hpost : List.Forall₂ (TokenBalance.Rewritten (snapshot.accountIndex? account))
      m.postTokenBalances post) :
    registry.classifyAccount (snapshot.withMeta (m.withTokens pre post)) account = .ok result := by
  have hmeta' : (snapshot.withMeta (m.withTokens pre post)).metadata = some _ := rfl
  cases hindex : snapshot.accountIndex? account with
  | none =>
    rw [classifyAccount_of_unlisted hmeta herror hindex] at h
    rw [classifyAccount_of_unlisted hmeta' herror hindex, h]
  | some index =>
    rw [hindex] at hpre hpost
    obtain ⟨moved, hmoved, hside⟩ := movement_of_unexchanged hmeta herror hindex h hresult
    have hsame : registry.movement snapshot m index = registry.movement
        (snapshot.withMeta (m.withTokens pre post)) (m.withTokens pre post) index :=
      movement_congr hmeta hmeta' rfl (sameFirst_withTokens hpre hpost).tokenChange_eq
        (sameFirst_withTokens hpre hpost).tokenChangeOf_eq
    rw [classifyAccount_of_index hmeta herror hindex, trade?_of_unexchanged hmoved hside] at h
    rw [classifyAccount_of_index hmeta' herror hindex,
      trade?_of_unexchanged (hsame.symm.trans hmoved) hside, ← h]
    rfl

/-- Amounts that are no numbers are answered for, and only as errors. None is passed over in a
purchase or a sale, and where nothing was exchanged no other account's amount counts. -/
theorem classifyAccount_amounts (registry : Registry) (account : Address)
    (hmeta : snapshot.metadata = some m) (herror : m.error = none) :
    ∃ result, registry.classifyAccount snapshot account = .ok result ∧
      ((∃ message, result = .error message) →
        ∃ entry ∈ m.preTokenBalances ++ m.postTokenBalances,
          ¬ ∃ n, Amount.Denotes entry.amount n) ∧
      (∀ trade, result = .trade trade → trade.side = .buy ∨ trade.side = .sell →
        ∀ index entry, m.preEntry index = some entry ∨ m.postEntry index = some entry →
          ∃ n, Amount.Denotes entry.amount n) ∧
      ((result = .notATrade ∨ ∃ trade, result = .trade trade ∧ trade.side = .receive) →
        ∀ pre post,
          List.Forall₂ (TokenBalance.Rewritten (snapshot.accountIndex? account))
            m.preTokenBalances pre →
          List.Forall₂ (TokenBalance.Rewritten (snapshot.accountIndex? account))
            m.postTokenBalances post →
          registry.classifyAccount (snapshot.withMeta (m.withTokens pre post)) account =
            .ok result) := by
  obtain ⟨result, h⟩ := exists_classifyAccount registry account hmeta herror
  refine ⟨result, h, ?_, ?_, ?_⟩
  · rintro ⟨message, rfl⟩
    have hunreadable := not_readable_of_error hmeta herror h
    unfold Readable at hunreadable
    push Not at hunreadable
    exact hunreadable
  · rintro trade rfl hexchanged index entry hentry
    have hside : trade.side ≠ .receive := by
      obtain hbuy | hsell := hexchanged
      · exact hbuy ▸ nofun
      · exact hsell ▸ nofun
    exact wellFormed_of_exchange hmeta h hside hentry
  · intro hresult pre post hpre hpost
    exact classifyAccount_withTokens hmeta herror h hresult hpre hpost

def smudgedMeta : TransactionMeta :=
  ⟨none, [], [], [⟨1, .filled 3, "?", 6⟩], [⟨0, .filled 4, "10", 6⟩]⟩

def smudged : TransactionSnapshot where
  signature := "5VERv8"
  slot := 287654321
  blockTime := some 1722470400
  accountKeys := [.filled 5, .filled 6]
  invocations := []
  metadata := some smudgedMeta

/-- Some other text that is no amount makes no difference. -/
theorem classifyAccount_amounts_smudged :
    smudged.metadata = some smudgedMeta ∧ smudgedMeta.error = none ∧
      (smallest.classifyAccount smudged (.filled 5)).map (·.trade?.map (·.side)) =
        .ok (some .receive) ∧
      smallest.classifyAccount (smudged.withMeta
          (smudgedMeta.withTokens [⟨1, .filled 3, "-1", 6⟩] smudgedMeta.postTokenBalances))
        (.filled 5) = smallest.classifyAccount smudged (.filled 5) := by
  have hreceived : (smallest.classifyAccount smudged (.filled 5)).map (·.trade?.map (·.side)) =
      .ok (some .receive) := by decide +kernel
  refine ⟨rfl, rfl, hreceived, ?_⟩
  have hmeta : smudged.metadata = some smudgedMeta := rfl
  obtain ⟨result, hresult, -, -, hrewritten⟩ :=
    classifyAccount_amounts smallest (.filled 5) hmeta rfl
  have hindex : smudged.accountIndex? (.filled 5) = some 0 := by decide
  rw [hresult] at hreceived ⊢
  rw [hindex] at hrewritten
  apply hrewritten
  · cases result with
    | trade trade => exact .inr ⟨trade, rfl, Option.some.inj (Except.ok.inj hreceived)⟩
    | notATrade => exact .inl rfl
    | error message => cases hreceived
  · exact .cons ⟨_, rfl, nofun⟩ .nil
  · exact .cons ⟨_, rfl, fun _ => rfl⟩ .nil

end Registry
end TradeTracker

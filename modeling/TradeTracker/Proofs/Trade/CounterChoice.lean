import TradeTracker.Proofs.Token.Catalog
import TradeTracker.Proofs.Trade.CounterMovement
import TradeTracker.Proofs.Trade.Malformed

/-! Which counter asset is chosen. Every account but the target offers what it gave up or took in.
Token offers are ranked by role, amount and first mention, and the best of them stands unless more
lamports moved. -/
namespace TradeTracker
open TransactionMeta

/-- What a mint is called in a catalog, and where the name is from. -/
inductive Catalog.Names (catalog : Catalog) (mint : Address) : AssetIdentity → CounterSource → Prop
  | listed {token : Token} (h : token ∈ catalog.tokens) (hmint : token.mint = mint) :
      Names catalog mint ⟨some mint, token.symbol, token.kind⟩ .catalog
  | unlisted (h : ∀ token ∈ catalog.tokens, token.mint ≠ mint) :
      Names catalog mint ⟨some mint, "UNKNOWN", .unknown⟩ .unlistedMint

namespace TransactionMeta

/-- No entry of `other` stands before the first entry of `index`. -/
def SeenNoLater (m : TransactionMeta) (index other : Nat) : Prop :=
  m.entryAccounts.idxOf index ≤ m.entryAccounts.idxOf other

end TransactionMeta

namespace CounterAsset

section Offers
variable (catalog : Catalog) (m : TransactionMeta) (target : Nat) (tracked : Address)
  (side : TradeSide)

/-- The first entries of the account at `index`, a missing one being 0, settle a trade with an
asset. The later entry says which asset it is, and that is not the tracked token. -/
structure TokenOffer (index : Nat) (asset : CounterAsset) : Prop where
  index_ne : index ≠ target
  described : ∃ entry, (m.postEntry index).or (m.preEntry index) = some entry ∧
    entry.mint ≠ tracked ∧ catalog.Names entry.mint asset.identity asset.source ∧
    asset.decimals = entry.decimals
  settles : ∃ before after, AmountsTo (m.preEntry index) before ∧
    AmountsTo (m.postEntry index) after ∧ side.Settles asset.rawAmount before after
  ne_zero : asset.rawAmount ≠ 0

/-- The lamports of the account at `index`, reported on both sides, settle a trade. -/
structure NativeOffer (index : Nat) (amount : UInt64) : Prop where
  index_ne : index ≠ target
  settles : ∃ before after, m.preBalances[index]? = some before ∧
    m.postBalances[index]? = some after ∧ side.Settles amount before after
  ne_zero : amount ≠ 0

/-- No other offer has a stronger role or more of the same, and one that has as much of the same is
no earlier. -/
structure EarliestBest (index : Nat) (asset : CounterAsset) : Prop where
  offer : TokenOffer catalog m target tracked side index asset
  best : ∀ other rival, TokenOffer catalog m target tracked side other rival →
    rival.weight < asset.weight ∨ rival.weight = asset.weight ∧ m.SeenNoLater index other

structure LargestNative (amount : UInt64) : Prop where
  offer : ∃ index, NativeOffer m target side index amount
  largest : ∀ other rival, NativeOffer m target side other rival → rival ≤ amount

/-- The asset to choose among the offers. -/
inductive Optimum : CounterAsset → Prop
  | default (htokens : ∀ index asset, ¬ TokenOffer catalog m target tracked side index asset)
      (hnatives : ∀ index amount, ¬ NativeOffer m target side index amount) :
      Optimum ⟨.native, 0, nativeDecimals, .default⟩
  | native {amount : UInt64} (h : LargestNative m target side amount)
      (hexceeds : ∀ index asset, EarliestBest catalog m target tracked side index asset →
        asset.rawAmount < amount) :
      Optimum ⟨.native, amount, nativeDecimals, .nativeBalance⟩
  | token {index : Nat} {asset : CounterAsset}
      (h : EarliestBest catalog m target tracked side index asset)
      (hholds : ∀ other amount, NativeOffer m target side other amount →
        amount ≤ asset.rawAmount) :
      Optimum asset

end Offers

end CounterAsset

private theorem Catalog.names_iff {catalog : Catalog} {mint : Address} {identity : AssetIdentity}
    {source : CounterSource} :
    catalog.Names mint identity source ↔ identity = catalog.identify mint ∧
      source = if (catalog.get? mint).isSome then .catalog else .unlistedMint := by
  rw [identify]
  cases hfound : catalog.get? mint with
  | none =>
    have hunlisted : ∀ token ∈ catalog.tokens, token.mint ≠ mint := by
      simpa [get?] using hfound
    constructor
    · rintro (⟨htoken, hmint⟩ | -)
      · exact absurd hmint (hunlisted _ htoken)
      · exact ⟨rfl, rfl⟩
    · rintro ⟨rfl, rfl⟩
      exact .unlisted hunlisted
  | some token =>
    obtain ⟨htoken, rfl⟩ := get?_eq_some_iff_mem.1 hfound
    constructor
    · rintro (⟨hother, hmint⟩ | hunlisted)
      · rw [← hmint, get?_of_mem hother] at hfound
        cases hfound
        exact ⟨rfl, rfl⟩
      · exact absurd rfl (hunlisted token htoken)
    · rintro ⟨rfl, rfl⟩
      exact .listed htoken rfl

private theorem BalanceChange.of_settles {change : BalanceChange} {side : TradeSide}
    {amount : UInt64}
    (h : side.Settles amount (change.before.getD 0) (change.after.getD 0)) (hne : amount ≠ 0) :
    CounterAsset.expectedDirection? side = some change.netDirection ∧ change.size = amount := by
  have hsize := change.toNat_size
  have hpos : amount.toNat ≠ 0 := by rwa [ne_eq, ← UInt64.toNat_zero, UInt64.toNat_inj]
  rw [← UInt64.toNat_inj, hsize, netDirection, net]
  rw [net] at hsize
  cases side with
  | receive => exact h.elim
  | buy =>
    change _ + _ = _ at h
    rw [Direction.ofChange, if_neg (by omega), if_pos (by omega)]
    exact ⟨rfl, by omega⟩
  | sell =>
    change _ + _ = _ at h
    rw [Direction.ofChange, if_pos (by omega)]
    exact ⟨rfl, by omega⟩

private theorem TradeSide.Settles.amount_unique {side : TradeSide}
    {amount amount' before after : UInt64}
    (h : side.Settles amount before after) (h' : side.Settles amount' before after) :
    amount = amount' := by
  apply UInt64.toNat_inj.1
  cases side with
  | buy => exact Nat.add_left_cancel (h.trans h'.symm)
  | sell => exact Nat.add_left_cancel (h.trans h'.symm)
  | receive => exact h.elim

private theorem BalanceChange.direction_eq_iff {change : BalanceChange} {expected : Direction}
    (hne : expected ≠ .unchanged) :
    change.direction = expected ↔ (∃ before after, change.before = some before ∧
      change.after = some after) ∧ change.netDirection = expected := by
  obtain ⟨index, mint, before, after, decimals⟩ := change
  match before, after with
  | some before, some after => exact (and_iff_right ⟨before, after, rfl, rfl⟩).symm
  | none, _ =>
    refine iff_of_false (fun h => hne h.symm) ?_
    rintro ⟨⟨_, _, hbefore, -⟩, -⟩
    cases hbefore
  | some before, none =>
    refine iff_of_false (fun h => hne h.symm) ?_
    rintro ⟨⟨_, _, -, hafter⟩, -⟩
    cases hafter

namespace CounterAsset
variable {catalog : Catalog} {m : TransactionMeta} {target : Nat} {tracked : Address}
  {side : TradeSide} {expected : Direction} {changes : List BalanceChange} {index : Nat}
  {asset : CounterAsset} {amount : UInt64}

private theorem TokenOffer.mem_tokenAccounts
    (h : TokenOffer catalog m target tracked side index asset) :
    index ∈ m.tokenAccounts := by
  obtain ⟨entry, hentry, -⟩ := h.described
  rcases Option.or_eq_some_iff.1 hentry with hpost | ⟨-, hpre⟩
  · exact TransactionMeta.mem_tokenAccounts (.inr hpost)
  · exact TransactionMeta.mem_tokenAccounts (.inl hpre)

private theorem TokenOffer.exists_move (h : TokenOffer catalog m target tracked side index asset)
    (hexpected : expectedDirection? side = some expected)
    (hchanges : m.tokenChanges = .ok changes) :
    ∃ change ∈ tokenMoves changes target tracked expected,
      change.index = index ∧ ofToken? catalog change = some asset := by
  have hlisted := h.mem_tokenAccounts
  rw [← map_index_of_tokenChanges hchanges, List.mem_map] at hlisted
  obtain ⟨change, hmem, rfl⟩ := hlisted
  obtain ⟨hmint, hdecimals, hbefore, hafter⟩ := of_tokenChange (tokenChange_of_mem hchanges hmem)
  obtain ⟨entry, hentry, htracked, hnames, hassetDecimals⟩ := h.described
  obtain ⟨before, after, hbefore', hafter', hsettles⟩ := h.settles
  obtain rfl := hbefore.unique hbefore'
  obtain rfl := hafter.unique hafter'
  obtain ⟨hdirection, hsize⟩ := BalanceChange.of_settles hsettles h.ne_zero
  rw [hentry, Option.map_some] at hmint hdecimals
  refine ⟨change, List.mem_filter.2 ⟨hmem, decide_eq_true ⟨?_, h.index_ne, ?_, ?_⟩⟩, rfl, ?_⟩
  · rw [hmint, Option.isSome_some]
  · rw [hmint]
    exact fun heq => htracked (Option.some.inj heq)
  · exact Option.some.inj (hdirection.symm.trans hexpected)
  · obtain ⟨hidentity, hsource⟩ := Catalog.names_iff.1 hnames
    rw [ofToken?, hmint, Option.map_some, ← hidentity, ← hsource, hsize, hdecimals,
      Option.getD_some, ← hassetDecimals]

private theorem tokenOffer_of_move {change : BalanceChange}
    (hexpected : expectedDirection? side = some expected) (hchanges : m.tokenChanges = .ok changes)
    (hchange : change ∈ tokenMoves changes target tracked expected)
    (htoken : ofToken? catalog change = some asset) :
    TokenOffer catalog m target tracked side change.index asset := by
  obtain ⟨hmem, hindex, htracked, hdirection⟩ := of_mem_tokenMoves hchange
  obtain ⟨hmint, hdecimals, hbefore, hafter⟩ := of_tokenChange (tokenChange_of_mem hchanges hmem)
  obtain ⟨mint, hfound, rfl⟩ := ofToken?_eq_some htoken
  rw [hfound] at hmint htracked
  obtain ⟨entry, hentry, rfl⟩ := Option.map_eq_some_iff.1 hmint.symm
  rw [hentry] at hdecimals
  refine ⟨hindex, ⟨entry, hentry, ?_, Catalog.names_iff.2 ⟨rfl, rfl⟩, hdecimals⟩,
    ⟨_, _, hbefore, hafter, BalanceChange.settles_size ?_⟩, ?_⟩
  · intro heq
    exact htracked (congrArg some heq)
  · rw [hexpected, hdirection]
  · apply BalanceChange.size_ne_zero_of_netDirection
    rw [hdirection]
    exact expectedDirection?_ne_unchanged hexpected

private theorem NativeOffer.exists_move (h : NativeOffer m target side index amount)
    (hexpected : expectedDirection? side = some expected) :
    ∃ change ∈ nativeMoves m target expected, change.index = index ∧ change.size = amount := by
  have hne := expectedDirection?_ne_unchanged hexpected
  obtain ⟨before, after, hbefore, hafter, hsettles⟩ := h.settles
  have hread : side.Settles amount ((m.nativeChange index).before.getD 0)
      ((m.nativeChange index).after.getD 0) := by
    rw [nativeChange, hbefore, hafter]
    exact hsettles
  obtain ⟨hdirection, hsize⟩ := BalanceChange.of_settles hread h.ne_zero
  obtain ⟨hlt, -⟩ := List.getElem?_eq_some_iff.1 hbefore
  refine ⟨m.nativeChange index, List.mem_filter.2 ⟨?_, decide_eq_true ⟨h.index_ne, ?_⟩⟩, rfl, hsize⟩
  · exact List.mem_map_of_mem (List.mem_range.2 (lt_max_of_lt_left hlt))
  · rw [BalanceChange.direction_eq_iff hne]
    exact ⟨⟨before, after, hbefore, hafter⟩, Option.some.inj (hdirection.symm.trans hexpected)⟩

private theorem nativeOffer_of_move {change : BalanceChange}
    (hexpected : expectedDirection? side = some expected)
    (hchange : change ∈ nativeMoves m target expected) :
    NativeOffer m target side change.index change.size := by
  have hne := expectedDirection?_ne_unchanged hexpected
  obtain ⟨hmem, hmoves⟩ := List.mem_filter.1 hchange
  rw [decide_eq_true_eq, BalanceChange.direction_eq_iff hne] at hmoves
  obtain ⟨hindex, ⟨before, after, hbefore, hafter⟩, hdirection⟩ := hmoves
  obtain ⟨i, -, rfl⟩ := List.mem_map.1 hmem
  have hsettles := BalanceChange.settles_size (hexpected.trans (congrArg some hdirection.symm))
  rw [hbefore, hafter] at hsettles
  exact ⟨hindex, ⟨before, after, hbefore, hafter, hsettles⟩,
    size_ne_zero_of_mem_nativeMoves hne hchange⟩

/-- Moves stand in the order in which their accounts are first mentioned. -/
private theorem pairwise_tokenMoves (hchanges : m.tokenChanges = .ok changes) (target : Nat)
    (tracked : Address) (expected : Direction) :
    (tokenMoves changes target tracked expected).Pairwise fun change later =>
      m.entryAccounts.idxOf change.index < m.entryAccounts.idxOf later.index := by
  have haccounts : (changes.map (·.index)).Pairwise fun index later =>
      m.entryAccounts.idxOf index < m.entryAccounts.idxOf later := by
    rw [map_index_of_tokenChanges hchanges]
    exact pairwise_firstSeen m.entryAccounts
  exact (List.pairwise_map.1 haccounts).filter _

private theorem weight_ofNative_le_iff {change change' : BalanceChange} :
    (ofNative change).weight ≤ (ofNative change').weight ↔ change.size ≤ change'.size := by
  rw [weight, weight, Prod.Lex.toLex_le_toLex, UInt64.le_iff_toNat_le]
  exact ⟨fun h => (h.resolve_left (lt_irrefl _)).2, fun h => .inr ⟨rfl, h⟩⟩

private theorem TokenOffer.unique {rival : CounterAsset}
    (h : TokenOffer catalog m target tracked side index asset)
    (h' : TokenOffer catalog m target tracked side index rival) : asset = rival := by
  obtain ⟨entry, hentry, -, hnames, hdecimals⟩ := h.described
  obtain ⟨entry', hentry', -, hnames', hdecimals'⟩ := h'.described
  obtain ⟨before, after, hbefore, hafter, hsettles⟩ := h.settles
  obtain ⟨before', after', hbefore', hafter', hsettles'⟩ := h'.settles
  obtain rfl := Option.some.inj (hentry.symm.trans hentry')
  obtain rfl := hbefore.unique hbefore'
  obtain rfl := hafter.unique hafter'
  obtain ⟨hidentity, hsource⟩ := Catalog.names_iff.1 hnames
  obtain ⟨hidentity', hsource'⟩ := Catalog.names_iff.1 hnames'
  have hamount : asset.rawAmount = rival.rawAmount := hsettles.amount_unique hsettles'
  rw [← hidentity'] at hidentity
  rw [← hsource'] at hsource
  rw [← hdecimals'] at hdecimals
  cases asset
  cases rival
  congr

/-- Two that are best weigh the same, and none of their accounts is mentioned before the other. -/
private theorem EarliestBest.unique {other : Nat} {rival : CounterAsset}
    (h : EarliestBest catalog m target tracked side index asset)
    (h' : EarliestBest catalog m target tracked side other rival) :
    asset = rival := by
  rcases h.best other rival h'.offer with hless | ⟨hsame, hseen⟩
  · rcases h'.best index asset h.offer with hless' | ⟨hsame', -⟩
    · exact absurd hless' hless.asymm
    · exact absurd hsame' hless.ne'
  · rcases h'.best index asset h.offer with hless' | ⟨-, hseen'⟩
    · exact absurd hsame.symm hless'.ne
    · have hindex : index = other := by
        have hlisted : index ∈ m.entryAccounts := mem_firstSeen.1 h.offer.mem_tokenAccounts
        exact (List.idxOf_inj hlisted).1 (Nat.le_antisymm hseen hseen')
      subst hindex
      exact h.offer.unique h'.offer

section Winners
variable (hexpected : expectedDirection? side = some expected)
include hexpected

private theorem not_nativeOffer_of_best?
    (h : best? ((nativeMoves m target expected).map ofNative) = Option.none) (index : Nat)
    (amount : UInt64) : ¬ NativeOffer m target side index amount := by
  rw [best?_eq_argmax, List.argmax_eq_none, List.map_eq_nil_iff] at h
  intro hoffer
  obtain ⟨_, hmem, -⟩ := hoffer.exists_move hexpected
  rw [h] at hmem
  cases hmem

private theorem largestNative_of_best?
    (h : best? ((nativeMoves m target expected).map ofNative) = some asset) :
    ∃ amount, LargestNative m target side amount ∧
      asset = ⟨.native, amount, nativeDecimals, .nativeBalance⟩ := by
  rw [best?_eq_argmax] at h
  obtain ⟨change, hchange, rfl⟩ := List.mem_map.1 (List.argmax_mem h)
  have hoffer := nativeOffer_of_move hexpected hchange
  refine ⟨change.size, ⟨⟨change.index, hoffer⟩, fun other rival hrival => ?_⟩, rfl⟩
  obtain ⟨change', hchange', -, rfl⟩ := hrival.exists_move hexpected
  exact weight_ofNative_le_iff.1 (List.le_of_mem_argmax (List.mem_map_of_mem hchange') h)

variable (hchanges : m.tokenChanges = .ok changes)
include hchanges

private theorem not_tokenOffer_of_best?
    (h : best? (tokenAssets catalog target tracked expected changes) = Option.none) (index : Nat)
    (asset : CounterAsset) : ¬ TokenOffer catalog m target tracked side index asset := by
  rw [best?_eq_argmax, List.argmax_eq_none, tokenAssets, List.filterMap_eq_nil_iff] at h
  intro hoffer
  obtain ⟨change, hchange, -, hasset⟩ := hoffer.exists_move hexpected hchanges
  rw [h change hchange] at hasset
  cases hasset

private theorem earliestBest_of_best?
    (h : best? (tokenAssets catalog target tracked expected changes) = some asset) :
    ∃ index, EarliestBest catalog m target tracked side index asset := by
  rw [best?_eq_argmax] at h
  obtain ⟨before, change, after, hsplit, hasset, hbefore, hafter⟩ :=
    exists_split_of_argmax_filterMap h
  have hmem : change ∈ tokenMoves changes target tracked expected := by
    rw [hsplit]
    exact List.mem_append_right _ List.mem_cons_self
  have hoffer := tokenOffer_of_move hexpected hchanges hmem hasset
  refine ⟨change.index, hoffer, fun other rival hrival => ?_⟩
  obtain ⟨change', hchange', rfl, hrivalAsset⟩ := hrival.exists_move hexpected hchanges
  have horder := pairwise_tokenMoves hchanges target tracked expected
  rw [hsplit] at hchange' horder
  rcases List.mem_append.1 hchange' with hearlier | hlater
  · exact .inl (hbefore change' hearlier rival hrivalAsset)
  rcases List.mem_cons.1 hlater with rfl | hlater
  · cases hasset.symm.trans hrivalAsset
    exact .inr ⟨rfl, le_refl _⟩
  · rcases (hafter change' hlater rival hrivalAsset).lt_or_eq with hless | hsame
    · exact .inl hless
    · obtain ⟨-, hrest, -⟩ := List.pairwise_append.1 horder
      exact .inr ⟨hsame, (List.rel_of_pairwise_cons hrest hlater).le⟩

private theorem optimum_settle :
    Optimum catalog m target tracked side
      (settle (best? (tokenAssets catalog target tracked expected changes))
        (best? ((nativeMoves m target expected).map ofNative))) := by
  cases htoken : best? (tokenAssets catalog target tracked expected changes) with
  | none =>
    have htokens := not_tokenOffer_of_best? hexpected hchanges htoken
    cases hnative : best? ((nativeMoves m target expected).map ofNative) with
    | none => exact .default htokens (not_nativeOffer_of_best? hexpected hnative)
    | some native =>
      obtain ⟨amount, hlargest, rfl⟩ := largestNative_of_best? hexpected hnative
      exact .native hlargest fun index asset h => absurd h.offer (htokens index asset)
  | some token =>
    obtain ⟨index, hbest⟩ := earliestBest_of_best? hexpected hchanges htoken
    cases hnative : best? ((nativeMoves m target expected).map ofNative) with
    | none =>
      have hnatives := not_nativeOffer_of_best? hexpected hnative
      exact .token hbest fun other amount h => absurd h (hnatives other amount)
    | some native =>
      obtain ⟨amount, hlargest, rfl⟩ := largestNative_of_best? hexpected hnative
      rw [settle]
      split_ifs with hlt
      · refine .native hlargest fun other asset h => ?_
        rwa [h.unique hbest]
      · exact .token hbest fun other rival h =>
          UInt64.le_trans (hlargest.largest other rival h) (UInt64.not_lt.1 hlt)

end Winners

private theorem LargestNative.unique {rival : UInt64} (h : LargestNative m target side amount)
    (h' : LargestNative m target side rival) : amount = rival := by
  obtain ⟨index, hoffer⟩ := h.offer
  obtain ⟨index', hoffer'⟩ := h'.offer
  exact UInt64.le_antisymm (h'.largest index amount hoffer) (h.largest index' rival hoffer')

private theorem Optimum.unique {rival : CounterAsset}
    (h : Optimum catalog m target tracked side asset)
    (h' : Optimum catalog m target tracked side rival) : asset = rival := by
  cases h with
  | default htokens hnatives =>
    cases h' with
    | default => rfl
    | native hlargest =>
      obtain ⟨index, hoffer⟩ := hlargest.offer
      exact absurd hoffer (hnatives index _)
    | token hbest => exact absurd hbest.offer (htokens _ _)
  | native hlargest hexceeds =>
    cases h' with
    | default _ hnatives =>
      obtain ⟨index, hoffer⟩ := hlargest.offer
      exact absurd hoffer (hnatives index _)
    | native hlargest' => rw [hlargest.unique hlargest']
    | token hbest hholds =>
      obtain ⟨index, hoffer⟩ := hlargest.offer
      exact absurd (hexceeds _ _ hbest) (UInt64.not_lt.2 (hholds index _ hoffer))
  | token hbest hholds =>
    cases h' with
    | default htokens => exact absurd hbest.offer (htokens _ _)
    | native hlargest hexceeds =>
      obtain ⟨index, hoffer⟩ := hlargest.offer
      exact absurd (hexceeds _ _ hbest) (UInt64.not_lt.2 (hholds index _ hoffer))
    | token hbest' => exact hbest.unique hbest'

private theorem exists_tokenChanges_iff : (∃ changes, m.tokenChanges = .ok changes) ↔
    ∀ index entry, m.preEntry index = some entry ∨ m.postEntry index = some entry →
      entry.WellFormed := by
  constructor
  · rintro ⟨changes, hchanges⟩ index entry hentry
    exact wellFormed_of_tokenChanges hchanges hentry
  · intro h
    refine Outcome.exists_mapM_eq_ok fun index _ => ?_
    rw [tokenChange_eq]
    exact exists_change_between _ _ (fun entry hentry => h index entry (.inl hentry))
      fun entry hentry => h index entry (.inr hentry)

/-- Resolving fails exactly where the first entry of some account has an amount that is no number,
and gives the optimum otherwise. -/
theorem resolve_optimum (hside : side ≠ .receive) :
    ((∃ e, resolve catalog m target tracked side = .error e) ↔
      ∃ index entry, (m.preEntry index = some entry ∨ m.postEntry index = some entry) ∧
        ¬ ∃ n, Amount.Denotes entry.amount n) ∧
    ∀ counter, resolve catalog m target tracked side = .ok counter ↔
      (∀ index entry, m.preEntry index = some entry ∨ m.postEntry index = some entry →
        ∃ n, Amount.Denotes entry.amount n) ∧
      Optimum catalog m target tracked side counter := by
  obtain ⟨expected, hexpected⟩ := exists_expectedDirection hside
  have hreadable := exists_tokenChanges_iff (m := m)
  rw [resolve_of_expected hexpected]
  constructor
  · rw [Outcome.exists_map_eq_error, hreadable]
    unfold TokenBalance.WellFormed
    push Not
    rfl
  · intro counter
    rw [Outcome.map_eq_ok]
    constructor
    · rintro ⟨changes, hchanges, rfl⟩
      exact ⟨hreadable.1 ⟨changes, hchanges⟩, optimum_settle hexpected hchanges⟩
    · rintro ⟨hwellFormed, hcounter⟩
      obtain ⟨changes, hchanges⟩ := hreadable.2 hwellFormed
      exact ⟨changes, hchanges, (optimum_settle hexpected hchanges).unique hcounter⟩

def routedMeta : TransactionMeta :=
  ⟨.none, [9000, 9000], [9000, 4000],
    [⟨1, .filled 7, "8000000", 6⟩, ⟨3, .filled 3, "3000000", 6⟩, ⟨2, .filled 3, "3000000", 9⟩],
    [⟨0, .filled 4, "2000000", 6⟩]⟩

/-- The stable token wins, as the account that is mentioned first has it. -/
theorem resolve_optimum_routed :
    TradeSide.buy ≠ .receive ∧
      resolve Registry.smallest.catalog routedMeta 0 (.filled 4) .buy =
        .ok ⟨⟨some (.filled 3), "hyUSD", .stable⟩, 3000000, 6, .catalog⟩ ∧
      Optimum Registry.smallest.catalog routedMeta 0 (.filled 4) .buy
        ⟨⟨some (.filled 3), "hyUSD", .stable⟩, 3000000, 6, .catalog⟩ := by
  have hside : TradeSide.buy ≠ .receive := nofun
  have hresolve : resolve Registry.smallest.catalog routedMeta 0 (.filled 4) .buy =
      .ok ⟨⟨some (.filled 3), "hyUSD", .stable⟩, 3000000, 6, .catalog⟩ := by
    decide +kernel
  exact ⟨hside, hresolve, (((resolve_optimum hside).2 _).1 hresolve).2⟩

end CounterAsset
end TradeTracker

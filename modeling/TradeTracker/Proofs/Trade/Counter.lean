import Mathlib.Data.List.MinMax
import Mathlib.Data.Prod.Lex
import TradeTracker.Proofs.Trade.Movement

/-! Where a counter asset comes from: it is one of the candidates that moved the right way outside
the target account, under its identity in the catalog, or the native unit with nothing moved. -/
namespace TradeTracker

namespace Direction

private theorem ofChange_eq_unchanged_iff {n : Int} : ofChange n = .unchanged ↔ n = 0 := by
  unfold ofChange
  split_ifs with hup hdown
  · exact iff_of_false nofun (by omega)
  · exact iff_of_false nofun (by omega)
  · exact iff_of_true rfl (by omega)

end Direction

namespace BalanceChange
variable {change : BalanceChange}

private theorem size_eq_zero_iff_net : change.size = 0 ↔ change.net = 0 := by
  rw [← UInt64.toNat_inj, toNat_size, UInt64.toNat_zero, Int.natAbs_eq_zero]

private theorem net_eq_strict (h : change.strict ≠ 0) : change.net = change.strict := by
  unfold strict net at *
  cases hbefore : change.before <;> cases hafter : change.after <;> simp_all

private theorem size_ne_zero_of_direction (h : change.direction ≠ .unchanged) :
    change.size ≠ 0 := by
  have hstrict : change.strict ≠ 0 := mt Direction.ofChange_eq_unchanged_iff.2 h
  rwa [ne_eq, size_eq_zero_iff_net, net_eq_strict hstrict]

theorem size_ne_zero_of_netDirection (h : change.netDirection ≠ .unchanged) : change.size ≠ 0 := by
  rw [ne_eq, size_eq_zero_iff_net]
  exact mt Direction.ofChange_eq_unchanged_iff.2 h

end BalanceChange

namespace CounterAsset

/-- The role of an asset before its amount. -/
def weight (asset : CounterAsset) : ℕ ×ₗ ℕ :=
  toLex (asset.identity.kind.rank, asset.rawAmount.toNat)

theorem weight_eq_iff {a b : CounterAsset} :
    a.weight = b.weight ↔ a.identity.kind = b.identity.kind ∧ a.rawAmount = b.rawAmount := by
  rw [weight, weight, toLex_inj, Prod.mk.injEq, UInt64.toNat_inj]
  refine and_congr_left fun _ => ⟨AssetKind.rank_injective, ?_⟩
  intro h
  rw [h]

private theorem outranks_iff {candidate current : CounterAsset} :
    outranks candidate current = true ↔ current.weight < candidate.weight := by
  rw [outranks, Bool.or_eq_true, Bool.and_eq_true, decide_eq_true_eq, beq_iff_eq,
    decide_eq_true_eq, weight, weight, Prod.Lex.toLex_lt_toLex, UInt64.lt_iff_toNat_lt]

theorem best?_eq_argmax (candidates : List CounterAsset) :
    best? candidates = candidates.argmax weight := by
  refine congrArg (fun step => candidates.foldl step Option.none) ?_
  funext best candidate
  cases best with
  | none => rfl
  | some current =>
    simp only [outranks_iff]
    rfl

theorem mem_of_best? {candidates : List CounterAsset} {best : CounterAsset}
    (h : best? candidates = some best) : best ∈ candidates := by
  rw [best?_eq_argmax] at h
  exact List.argmax_mem h

private theorem settle_cases (token native : Option CounterAsset) :
    (token = some (settle token native) ∨ native = some (settle token native)) ∨
      settle token native = none := by
  match token, native with
  | Option.none, Option.none => exact .inr rfl
  | some token, Option.none => exact .inl (.inl rfl)
  | Option.none, some native => exact .inl (.inr rfl)
  | some token, some native =>
    rw [settle]
    split_ifs
    · exact .inl (.inr rfl)
    · exact .inl (.inl rfl)

theorem expectedDirection?_ne_unchanged {side : TradeSide} {expected : Direction}
    (h : expectedDirection? side = some expected) : expected ≠ .unchanged := by
  cases side <;> cases h <;> decide

variable {catalog : Catalog} {m : TransactionMeta} {target : Nat} {tracked : Address}
  {side : TradeSide} {counter : CounterAsset}

/-- A resolved counter asset is no asset at all, lamports that moved the way the side expects, or
tokens that did. -/
theorem resolve_eq_ok (h : resolve catalog m target tracked side = .ok counter) :
    counter = none ∨ ∃ expected, expectedDirection? side = some expected ∧
      ((∃ change ∈ nativeMoves m target expected, ofNative change = counter) ∨
        ∃ changes, m.tokenChanges = .ok changes ∧
          ∃ change ∈ tokenMoves changes target tracked expected,
            ofToken? catalog change = some counter) := by
  unfold resolve at h
  split at h
  case h_1 =>
    cases h
    exact .inl rfl
  case h_2 expected hexpected =>
    obtain ⟨changes, hchanges, hsettle⟩ := Outcome.bind_eq_ok.1 h
    cases hsettle
    obtain (htoken | hnative) | hnone := settle_cases
      (best? ((tokenMoves changes target tracked expected).filterMap (ofToken? catalog)))
      (best? ((nativeMoves m target expected).map ofNative))
    · obtain ⟨change, hchange, htoken⟩ := List.mem_filterMap.1 (mem_of_best? htoken)
      exact .inr ⟨expected, hexpected, .inr ⟨changes, hchanges, change, hchange, htoken⟩⟩
    · obtain ⟨change, hchange, hnative⟩ := List.mem_map.1 (mem_of_best? hnative)
      exact .inr ⟨expected, hexpected, .inl ⟨change, hchange, hnative⟩⟩
    · exact .inl hnone

theorem ofToken?_eq_some {change : BalanceChange} (h : ofToken? catalog change = some counter) :
    ∃ mint, change.mint = some mint ∧ counter = {
      identity := catalog.identify mint
      rawAmount := change.size
      decimals := change.decimals
      source := if (catalog.get? mint).isSome then .catalog else .unlistedMint } := by
  obtain ⟨mint, hmint, rfl⟩ := Option.map_eq_some_iff.1 h
  exact ⟨mint, hmint, rfl⟩

structure Consistent (counter : CounterAsset) (catalog : Catalog) (tracked : Address) : Prop where
  mint_isSome_iff : counter.identity.mint.isSome = true ↔
    counter.source = .catalog ∨ counter.source = .unlistedMint
  mint_ne_tracked : counter.identity.mint ≠ some tracked
  source_eq_catalog_iff : ∀ mint, counter.identity.mint = some mint →
    (counter.source = .catalog ↔ ∃ token ∈ catalog.tokens, token.mint = mint)
  rawAmount_eq_zero_iff : counter.rawAmount = 0 ↔ counter.source = .default

private theorem consistent_none : none.Consistent catalog tracked where
  mint_isSome_iff := by decide
  mint_ne_tracked := nofun
  source_eq_catalog_iff := nofun
  rawAmount_eq_zero_iff := iff_of_true rfl rfl

private theorem consistent_ofNative {change : BalanceChange} (h : change.size ≠ 0) :
    (ofNative change).Consistent catalog tracked where
  mint_isSome_iff := iff_of_false nofun (by rintro (h | h) <;> cases h)
  mint_ne_tracked := nofun
  source_eq_catalog_iff := nofun
  rawAmount_eq_zero_iff := iff_of_false h nofun

private theorem consistent_ofToken? {change : BalanceChange}
    (h : ofToken? catalog change = some counter)
    (hmint : change.mint ≠ some tracked) (hsize : change.size ≠ 0) :
    counter.Consistent catalog tracked := by
  obtain ⟨mint, hchange, rfl⟩ := ofToken?_eq_some h
  rw [hchange] at hmint
  have hsource : (if (catalog.get? mint).isSome then CounterSource.catalog else .unlistedMint) =
      .catalog ↔ ∃ token ∈ catalog.tokens, token.mint = mint := by
    rw [← Catalog.isSome_get?_iff]
    split_ifs with hlisted
    · exact iff_of_true rfl hlisted
    · exact iff_of_false nofun hlisted
  constructor
  · refine iff_of_true (by rw [Catalog.mint_identify]; rfl) ?_
    dsimp only
    split_ifs
    · exact .inl rfl
    · exact .inr rfl
  · rwa [Catalog.mint_identify]
  · intro found hfound
    rw [Catalog.mint_identify] at hfound
    cases hfound
    exact hsource
  · refine iff_of_false hsize ?_
    dsimp only
    split_ifs <;> nofun

theorem size_ne_zero_of_mem_nativeMoves {change : BalanceChange} {expected : Direction}
    (hexpected : expected ≠ .unchanged) (h : change ∈ nativeMoves m target expected) :
    change.size ≠ 0 := by
  have hmoves := (List.mem_filter.1 h).2
  rw [decide_eq_true_eq] at hmoves
  exact BalanceChange.size_ne_zero_of_direction (hmoves.2 ▸ hexpected)

theorem of_mem_tokenMoves {changes : List BalanceChange} {change : BalanceChange}
    {expected : Direction} (h : change ∈ tokenMoves changes target tracked expected) :
    change ∈ changes ∧ change.index ≠ target ∧ change.mint ≠ some tracked ∧
      change.netDirection = expected := by
  obtain ⟨hmem, hmoves⟩ := List.mem_filter.1 h
  rw [decide_eq_true_eq] at hmoves
  exact ⟨hmem, hmoves.2⟩

/-- Whatever is resolved is consistent: only assets that moved are candidates. -/
theorem consistent_of_resolve (h : resolve catalog m target tracked side = .ok counter) :
    counter.Consistent catalog tracked := by
  obtain rfl | ⟨expected, hexpected, hmoved⟩ := resolve_eq_ok h
  · exact consistent_none
  have hne := expectedDirection?_ne_unchanged hexpected
  obtain ⟨change, hchange, rfl⟩ | ⟨changes, -, change, hchange, htoken⟩ := hmoved
  · exact consistent_ofNative (size_ne_zero_of_mem_nativeMoves hne hchange)
  · obtain ⟨-, -, hmint, hdirection⟩ := of_mem_tokenMoves hchange
    exact consistent_ofToken? htoken hmint
      (BalanceChange.size_ne_zero_of_netDirection (hdirection ▸ hne))

end CounterAsset
end TradeTracker

import TradeTracker.Proofs.Trade.Counter
import TradeTracker.Proofs.Transaction.TokenChanges

/-! The candidates for the counter asset of a trade. The winner is the greatest by role and amount,
so in what order they are looked at decides only between two that agree in both. -/
namespace TradeTracker

section Argmax
variable {α β : Type} [LinearOrder β] {weight : α → β} {items items' : List α}

private theorem map_argmax_of_perm (h : (items.map weight).Perm (items'.map weight)) :
    (items.argmax weight).map weight = (items'.argmax weight).map weight := by
  have hmatch {a : α} (ha : a ∈ items) : ∃ b ∈ items', weight b = weight a :=
    List.mem_map.1 (h.mem_iff.1 (List.mem_map_of_mem ha))
  have hmatch' {b : α} (hb : b ∈ items') : ∃ a ∈ items, weight a = weight b :=
    List.mem_map.1 (h.mem_iff.2 (List.mem_map_of_mem hb))
  cases hfirst : items.argmax weight with
  | none =>
    obtain rfl := List.argmax_eq_none.1 hfirst
    obtain rfl := List.map_eq_nil_iff.1 h.symm.eq_nil
    rfl
  | some a =>
    obtain ⟨b', hb', hweight⟩ := hmatch (List.argmax_mem hfirst)
    cases hsecond : items'.argmax weight with
    | none =>
      obtain rfl := List.argmax_eq_none.1 hsecond
      cases hb'
    | some b =>
      obtain ⟨a', ha', hweight'⟩ := hmatch' (List.argmax_mem hsecond)
      have hab := hweight ▸ List.le_of_mem_argmax hb' hsecond
      have hba := hweight' ▸ List.le_of_mem_argmax ha' hfirst
      exact congrArg some (le_antisymm hab hba)

private theorem argmax_eq_of_perm (h : items.Perm items')
    (hinj : ∀ a ∈ items, ∀ b ∈ items, weight a = weight b → a = b) :
    items.argmax weight = items'.argmax weight := by
  have hweight : (items.argmax weight).map weight = (items'.argmax weight).map weight :=
    map_argmax_of_perm (h.map weight)
  cases hfirst : items.argmax weight with
  | none =>
    rw [hfirst] at hweight
    exact (Option.map_eq_none_iff.1 hweight.symm).symm
  | some a =>
    rw [hfirst] at hweight
    obtain ⟨b, hsecond, hba⟩ := Option.map_eq_some_iff.1 hweight.symm
    have hb := h.mem_iff.2 (List.argmax_mem hsecond)
    rw [hsecond, hinj a (List.argmax_mem hfirst) b hb hba.symm]

variable {b : α}

private theorem exists_split_of_argmax (h : items.argmax weight = some b) :
    ∃ before after, items = before ++ b :: after ∧ (∀ c ∈ before, weight c < weight b) ∧
      ∀ c ∈ after, weight c ≤ weight b := by
  induction items using List.reverseRecOn generalizing b with
  | nil => cases h
  | append_singleton items last ih =>
    rw [List.argmax_concat] at h
    cases hbest : items.argmax weight with
    | none =>
      rw [hbest] at h
      cases h
      rw [List.argmax_eq_none.1 hbest]
      exact ⟨[], [], rfl, nofun, nofun⟩
    | some best =>
      rw [hbest] at h
      dsimp only at h
      split_ifs at h with hlt
      · cases h
        exact ⟨items, [], rfl, fun c hc => (List.le_of_mem_argmax hc hbest).trans_lt hlt, nofun⟩
      · cases h
        obtain ⟨before, after, rfl, hbefore, hafter⟩ := ih hbest
        refine ⟨before, after ++ [last], by simp, hbefore, List.forall_mem_append.2 ⟨hafter, ?_⟩⟩
        exact List.forall_mem_singleton.2 (not_lt.1 hlt)

/-- The item that a greatest value was taken from is the first such: those before it weigh less. -/
theorem exists_split_of_argmax_filterMap {γ : Type} {f : γ → Option α} {sources : List γ}
    (h : (sources.filterMap f).argmax weight = some b) :
    ∃ before c after, sources = before ++ c :: after ∧ f c = some b ∧
      (∀ d ∈ before, ∀ a, f d = some a → weight a < weight b) ∧
      ∀ d ∈ after, ∀ a, f d = some a → weight a ≤ weight b := by
  obtain ⟨lesser, others, hsplit, hlesser, hothers⟩ := exists_split_of_argmax h
  obtain ⟨first, rest, rfl, rfl, hrest⟩ := List.filterMap_eq_append_iff.1 hsplit
  obtain ⟨gap, c, after, rfl, hgap, hc, rfl⟩ := List.filterMap_eq_cons_iff.1 hrest
  refine ⟨first ++ gap, c, after, by simp, hc, fun d hd a ha => ?_, fun d hd a ha => ?_⟩
  · rcases List.mem_append.1 hd with hd | hd
    · exact hlesser a (List.mem_filterMap.2 ⟨d, hd, ha⟩)
    · rw [hgap d hd] at ha
      cases ha
  · exact hothers a (List.mem_filterMap.2 ⟨d, hd, ha⟩)

end Argmax

namespace CounterAsset

theorem map_best?_of_perm {candidates candidates' : List CounterAsset}
    (h : (candidates.map weight).Perm (candidates'.map weight)) :
    (best? candidates).map weight = (best? candidates').map weight := by
  rw [best?_eq_argmax, best?_eq_argmax]
  exact map_argmax_of_perm h

private theorem best?_eq_of_perm {candidates candidates' : List CounterAsset}
    (h : candidates.Perm candidates')
    (hinj : ∀ a ∈ candidates, ∀ b ∈ candidates, a.weight = b.weight → a = b) :
    best? candidates = best? candidates' := by
  rw [best?_eq_argmax, best?_eq_argmax]
  exact argmax_eq_of_perm h hinj

/-- Of the token only its amount is held against the native unit, so what two tokens of one amount
have in common settling leaves in common. -/
theorem settle_rel {R : CounterAsset → CounterAsset → Prop} (hrefl : ∀ a, R a a)
    (hamount : ∀ a b, R a b → a.rawAmount = b.rawAmount) {token token' : Option CounterAsset}
    (h : Option.Rel R token token') (native : Option CounterAsset) :
    R (settle token native) (settle token' native) := by
  cases h with
  | none => exact hrefl _
  | some h =>
    cases native with
    | none => exact h
    | some native =>
      rw [settle, settle, hamount _ _ h]
      split_ifs
      · exact hrefl _
      · exact h

theorem rel_of_map_weight_eq {token token' : Option CounterAsset}
    (h : token.map weight = token'.map weight) :
    Option.Rel (fun a b => a.weight = b.weight) token token' := by
  match token, token' with
  | Option.none, Option.none => exact .none
  | some token, some token' => exact .some (Option.some.inj h)

private theorem rawAmount_settle {token token' : Option CounterAsset}
    (h : token.map weight = token'.map weight) (native : Option CounterAsset) :
    (settle token native).rawAmount = (settle token' native).rawAmount := by
  have hweight := settle_rel (R := fun a b => a.weight = b.weight) (fun _ => rfl)
    (fun _ _ heq => (weight_eq_iff.1 heq).2) (rel_of_map_weight_eq h) native
  exact (weight_eq_iff.1 hweight).2

section Candidates
variable {catalog : Catalog} {m m' : TransactionMeta} {target : Nat} {tracked : Address}
  {side : TradeSide} {index other : Nat} {a b : CounterAsset}

/-- The account at `index` moved the way the side expects, and `asset` is what moved. -/
def Candidate (catalog : Catalog) (m : TransactionMeta) (target : Nat) (tracked : Address)
    (side : TradeSide) (index : Nat) (asset : CounterAsset) : Prop :=
  ∃ expected changes, expectedDirection? side = some expected ∧ m.tokenChanges = .ok changes ∧
    ∃ change ∈ tokenMoves changes target tracked expected,
      change.index = index ∧ ofToken? catalog change = some asset

/-- No two accounts offer as much of one role. -/
def Untied (catalog : Catalog) (m : TransactionMeta) (target : Nat) (tracked : Address)
    (side : TradeSide) : Prop :=
  ∀ index other a b, Candidate catalog m target tracked side index a →
    Candidate catalog m target tracked side other b → index ≠ other →
    ¬ (a.identity.kind = b.identity.kind ∧ a.rawAmount = b.rawAmount)

private theorem Candidate.unique (ha : Candidate catalog m target tracked side index a)
    (hb : Candidate catalog m target tracked side index b) : a = b := by
  obtain ⟨_, changes, -, hchanges, change, hchange, rfl, ha⟩ := ha
  obtain ⟨_, changes', -, hchanges', change', hchange', hindex, hb⟩ := hb
  have hread := TransactionMeta.tokenChange_of_mem hchanges (of_mem_tokenMoves hchange).1
  have hread' := TransactionMeta.tokenChange_of_mem hchanges' (of_mem_tokenMoves hchange').1
  rw [hindex] at hread'
  obtain rfl := Except.ok.inj (hread.symm.trans hread')
  exact Option.some.inj (ha.symm.trans hb)

private theorem Untied.eq_of_weight_eq (h : Untied catalog m target tracked side)
    (ha : Candidate catalog m target tracked side index a)
    (hb : Candidate catalog m target tracked side other b) (hweight : a.weight = b.weight) :
    a = b := by
  by_cases hindex : index = other
  · subst hindex
    exact ha.unique hb
  · exact absurd (weight_eq_iff.1 hweight) (h index other a b ha hb hindex)

def tokenAssets (catalog : Catalog) (target : Nat) (tracked : Address) (expected : Direction)
    (changes : List BalanceChange) : List CounterAsset :=
  (tokenMoves changes target tracked expected).filterMap (ofToken? catalog)

theorem resolve_of_expected {expected : Direction} (h : expectedDirection? side = some expected) :
    resolve catalog m target tracked side = m.tokenChanges.map fun changes =>
      settle (best? (tokenAssets catalog target tracked expected changes))
        (best? ((nativeMoves m target expected).map ofNative)) := by
  rw [resolve, h]
  cases m.tokenChanges <;> rfl

private theorem exists_candidate_of_mem {expected : Direction} {changes : List BalanceChange}
    (hexpected : expectedDirection? side = some expected) (hchanges : m.tokenChanges = .ok changes)
    (h : a ∈ tokenAssets catalog target tracked expected changes) :
    ∃ index, Candidate catalog m target tracked side index a := by
  obtain ⟨change, hchange, htoken⟩ := List.mem_filterMap.1 h
  exact ⟨change.index, expected, changes, hexpected, hchanges, change, hchange, rfl, htoken⟩

/-- The counter asset is resolved for both or neither, with the same amount. It is the same asset
but for a tie. -/
theorem resolve_alike (h : m.Reordered m') (hone : m.OneEntryEach) (catalog : Catalog)
    (target : Nat) (tracked : Address) (side : TradeSide) :
    Outcome.Alike (fun asset asset' => asset.rawAmount = asset'.rawAmount ∧
        (Untied catalog m target tracked side → asset = asset'))
      (resolve catalog m target tracked side) (resolve catalog m' target tracked side) := by
  cases hexpected : expectedDirection? side with
  | none =>
    rw [resolve, resolve, hexpected]
    exact .ok ⟨rfl, fun _ => rfl⟩
  | some expected =>
    rw [resolve_of_expected hexpected, resolve_of_expected hexpected]
    obtain ⟨changes, changes', hchanges, hchanges', hperm⟩ | ⟨e, e', herror, herror'⟩ :=
      (h.tokenChanges_alike hone).cases
    · have hassets : (tokenAssets catalog target tracked expected changes).Perm
          (tokenAssets catalog target tracked expected changes') :=
        (hperm.filter _).filterMap (ofToken? catalog)
      have hnatives : nativeMoves m target expected = nativeMoves m' target expected := by
        rw [nativeMoves, nativeMoves, h.nativeChanges_eq]
      rw [hchanges, hchanges', hnatives]
      refine .ok ⟨rawAmount_settle (map_best?_of_perm (hassets.map weight)) _, fun huntied => ?_⟩
      refine congrArg (settle · _) (best?_eq_of_perm hassets fun a ha b hb hweight => ?_)
      obtain ⟨index, ha⟩ := exists_candidate_of_mem hexpected hchanges ha
      obtain ⟨other, hb⟩ := exists_candidate_of_mem hexpected hchanges hb
      exact huntied.eq_of_weight_eq ha hb hweight
    · rw [herror, herror']
      exact .error e e'

end Candidates

end CounterAsset
end TradeTracker

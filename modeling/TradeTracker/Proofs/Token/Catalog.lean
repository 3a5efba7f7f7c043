import Mathlib.Data.List.Induction
import Mathlib.Data.List.Nodup
import Mathlib.Tactic.SplitIfs
import TradeTracker.Token.Catalog

/-! What a catalog has for a mint: the last of the entries that were listed for it. -/
namespace TradeTracker

def Address.filled (b : UInt8) : Address := ⟨List.replicate 32 b, List.length_replicate⟩

namespace Catalog
variable {entries arranged tokens : List Token} {entry token : Token} {mint : Address}
  {catalog : Catalog}

private theorem merge_append_singleton (entries : List Token) (entry : Token) :
    merge (entries ++ [entry]) = put (merge entries) entry := by
  rw [merge, List.foldl_append]
  rfl

private theorem find?_put (tokens : List Token) (entry : Token) (mint : Address) :
    (put tokens entry).find? (fun token => token.mint = mint) =
      if entry.mint = mint then some entry else tokens.find? (fun token => token.mint = mint) := by
  unfold put
  split_ifs with hlisted hmint hmint
  · subst hmint
    induction tokens with
    | nil => cases hlisted
    | cons token tokens ih =>
      by_cases htoken : token.mint = entry.mint
      · simp [htoken]
      · simp only [List.map_cons, List.mem_cons] at hlisted
        simpa [htoken] using ih (hlisted.resolve_left fun h => htoken h.symm)
  · clear hlisted
    induction tokens with
    | nil => rfl
    | cons token tokens ih =>
      by_cases htoken : token.mint = entry.mint
      · simpa [htoken, hmint] using ih
      · simp only [List.map_cons, List.find?_cons, if_neg htoken, ih]
  · subst hmint
    have hnone : tokens.find? (fun token => token.mint = entry.mint) = none := by
      simpa using hlisted
    simp [List.find?_append, hnone]
  · simp [List.find?_append, hmint]

/-- No later entry has the mint of this one. -/
def LastListed (entries : List Token) (token : Token) : Prop :=
  ∃ before after, entries = before ++ token :: after ∧ ∀ other ∈ after, other.mint ≠ token.mint

theorem not_lastListed_nil : ¬ LastListed [] token := by
  rintro ⟨before, after, hsplit, -⟩
  simp at hsplit

private theorem lastListed_singleton : LastListed [entry] token ↔ token = entry := by
  constructor
  · rintro ⟨before, after, hsplit, -⟩
    rcases List.singleton_eq_append_iff.1 hsplit with ⟨-, hentry⟩ | ⟨-, hentry⟩
    · exact (List.cons.inj hentry).1
    · cases hentry
  · rintro rfl
    exact ⟨[], [], rfl, nofun⟩

/-- The last entry is among the later ones where these have its mint. -/
theorem lastListed_append {later : List Token} :
    LastListed (entries ++ later) token ↔ LastListed later token ∨
      LastListed entries token ∧ ∀ other ∈ later, other.mint ≠ token.mint := by
  constructor
  · rintro ⟨before, after, hsplit, hlast⟩
    rcases List.append_eq_append_iff.1 hsplit with ⟨rest, -, rfl⟩ | ⟨rest, rfl, hlater⟩
    · exact .inl ⟨rest, after, rfl, hlast⟩
    · cases rest with
      | nil => exact .inl ⟨[], after, hlater.symm, hlast⟩
      | cons first rest =>
        obtain ⟨rfl, rfl⟩ := List.cons.inj hlater
        refine .inr ⟨⟨before, rest, rfl, fun other hother => ?_⟩, fun other hother => ?_⟩
        · exact hlast other (List.mem_append_left _ hother)
        · exact hlast other (List.mem_append_right _ hother)
  · rintro (⟨before, after, rfl, hlast⟩ | ⟨⟨before, after, rfl, hlast⟩, hlater⟩)
    · exact ⟨entries ++ before, after, by simp, hlast⟩
    · refine ⟨before, after ++ later, by simp, fun other hother => ?_⟩
      rcases List.mem_append.1 hother with hother | hother
      · exact hlast other hother
      · exact hlater other hother

theorem lastListed_cons {later : List Token} :
    LastListed (entry :: later) token ↔ LastListed later token ∨
      token = entry ∧ ∀ other ∈ later, other.mint ≠ token.mint := by
  rw [← List.singleton_append, lastListed_append, lastListed_singleton]

/-- A merge has the last entry of every mint. -/
theorem find?_merge_eq_some_iff :
    (merge entries).find? (fun token => token.mint = mint) = some token ↔
      token.mint = mint ∧ LastListed entries token := by
  induction entries using List.reverseRecOn with
  | nil => exact iff_of_false nofun fun h => not_lastListed_nil h.2
  | append_singleton entries entry ih =>
    rw [merge_append_singleton, find?_put, lastListed_append, lastListed_singleton]
    split_ifs with hmint
    · constructor
      · rintro ⟨⟩
        exact ⟨hmint, .inl rfl⟩
      · rintro ⟨htoken, rfl | ⟨-, hne⟩⟩
        · rfl
        · exact absurd (hmint.trans htoken.symm) (hne entry (List.mem_singleton_self entry))
    · rw [ih]
      constructor
      · rintro ⟨rfl, hlast⟩
        exact ⟨rfl, .inr ⟨hlast, by simpa using hmint⟩⟩
      · rintro ⟨htoken, rfl | ⟨hlast, -⟩⟩
        · exact absurd htoken hmint
        · exact ⟨htoken, hlast⟩

/-- No mint that was listed is lost. -/
theorem exists_find?_merge (h : entry ∈ entries) :
    ∃ token, (merge entries).find? (fun token => token.mint = entry.mint) = some token := by
  induction entries using List.reverseRecOn with
  | nil => cases h
  | append_singleton entries last ih =>
    rw [merge_append_singleton, find?_put]
    split_ifs with hmint
    · exact ⟨last, rfl⟩
    · rcases List.mem_append.1 h with h | h
      · exact ih h
      · exact absurd (congrArg Token.mint (List.mem_singleton.1 h).symm) hmint

/-- The catalog of a list of entries whose merged tokens are held in any order, as in a hash map. -/
def ofArranged {entries arranged : List Token} (harranged : arranged.Perm (merge entries)) :
    Except CatalogError Catalog :=
  match h : entries.find? (fun entry => Amount.maxDecimals < entry.decimals) with
  | some entry => .error (.tooManyDecimals entry.symbol entry.decimals)
  | none =>
    match single .stable arranged with
    | .error e => .error e
    | .ok ⟨stable, hs⟩ =>
      match single .leveragedToken arranged with
      | .error e => .error e
      | .ok ⟨leveraged, hl⟩ =>
        .ok {
          tokens := arranged
          stable := stable
          leveraged := leveraged
          nodup_mints := (harranged.map Token.mint).nodup_iff.2 (nodup_merge entries)
          decimals_le := fun token htoken => by
            have hmem := mem_of_mem_merge (harranged.mem_iff.1 htoken)
            simpa using List.find?_eq_none.1 h token hmem
          stable_only := hs
          leveraged_only := hl }

/-- One such order is that of the first mentions. -/
theorem ofArranged_refl (entries : List Token) :
    ofArranged (.refl (merge entries)) = ofEntries entries := by
  unfold ofArranged ofEntries
  congr 1
  funext hsound
  cases single .stable (merge entries) with
  | error e => rfl
  | ok stable => cases single .leveragedToken (merge entries) <;> rfl

theorem tokens_of_ofArranged {h : arranged.Perm (merge entries)}
    (hcatalog : ofArranged h = .ok catalog) : catalog.tokens = arranged := by
  unfold ofArranged at hcatalog
  split at hcatalog
  · cases hcatalog
  · split at hcatalog
    · cases hcatalog
    · split at hcatalog
      · cases hcatalog
      · cases hcatalog
        rfl

private theorem tokens_of_ofEntries (h : ofEntries entries = .ok catalog) :
    catalog.tokens = merge entries :=
  tokens_of_ofArranged ((ofArranged_refl entries).trans h)

/-- Looking up a mint finds the last entry that was listed for it. -/
theorem get?_eq_some_iff (h : ofEntries entries = .ok catalog) :
    catalog.get? mint = some token ↔ token.mint = mint ∧ LastListed entries token := by
  rw [get?, tokens_of_ofEntries h]
  exact find?_merge_eq_some_iff

theorem exists_get? (h : ofEntries entries = .ok catalog) (hentry : entry ∈ entries) :
    ∃ token, catalog.get? entry.mint = some token := by
  rw [get?, tokens_of_ofEntries h]
  exact exists_find?_merge hentry

theorem mem_of_ofEntries (h : ofEntries entries = .ok catalog) (htoken : token ∈ catalog.tokens) :
    token ∈ entries := by
  rw [tokens_of_ofEntries h] at htoken
  exact mem_of_mem_merge htoken

/-- Where no two tokens have one mint, each is found by its own. -/
theorem find?_mint_eq_some_iff (h : (tokens.map Token.mint).Nodup) :
    tokens.find? (fun token => token.mint = mint) = some token ↔
      token ∈ tokens ∧ token.mint = mint := by
  constructor
  · intro hfound
    exact ⟨List.mem_of_find?_eq_some hfound, by simpa using List.find?_some hfound⟩
  · rintro ⟨htoken, rfl⟩
    cases hfound : tokens.find? (fun other => other.mint = token.mint) with
    | none =>
      have hnone := List.find?_eq_none.1 hfound token htoken
      simp at hnone
    | some found =>
      have hmint : found.mint = token.mint := by simpa using List.find?_some hfound
      exact congrArg some
        (List.inj_on_of_nodup_map h (List.mem_of_find?_eq_some hfound) htoken hmint)

theorem get?_eq_some_iff_mem :
    catalog.get? mint = some token ↔ token ∈ catalog.tokens ∧ token.mint = mint :=
  find?_mint_eq_some_iff catalog.nodup_mints

theorem get?_of_mem (h : token ∈ catalog.tokens) : catalog.get? token.mint = some token :=
  get?_eq_some_iff_mem.2 ⟨h, rfl⟩

theorem isSome_get?_iff :
    (catalog.get? mint).isSome = true ↔ ∃ token ∈ catalog.tokens, token.mint = mint := by
  simp [get?]

/-- A mint keeps its address, listed or not. -/
@[simp] theorem mint_identify (catalog : Catalog) (mint : Address) :
    (catalog.identify mint).mint = some mint := by
  unfold identify
  cases h : catalog.get? mint with
  | none => rfl
  | some token => exact congrArg some (get?_eq_some_iff_mem.1 h).2

theorem isStableMint_iff : catalog.isStableMint mint = true ↔ mint = catalog.stable.mint := by
  rw [isStableMint, decide_eq_true_eq, eq_comm]

/-- The only token of a kind is each token of this kind. -/
theorem mem_only_iff {kind : AssetKind} {only : Token}
    (h : tokens.filter (fun token => token.kind = kind) = [only]) :
    token ∈ tokens ∧ token.kind = kind ↔ token = only := by
  have hmem : token ∈ tokens.filter (fun token => token.kind = kind) ↔ token ∈ [only] := by rw [h]
  rwa [List.mem_filter, decide_eq_true_eq, List.mem_singleton] at hmem

theorem of_only {kind : AssetKind} (h : tokens.filter (fun token => token.kind = kind) = [token]) :
    token ∈ tokens ∧ token.kind = kind :=
  (mem_only_iff h).2 rfl

end Catalog
end TradeTracker

import Mathlib.Data.Finset.Card
import Mathlib.Logic.ExistsUnique
import TradeTracker.Proofs.Outcome
import TradeTracker.Proofs.Token.Catalog

/-! A catalog answers with what was listed last for each mint, in whatever order the merged tokens
are held. -/
namespace TradeTracker.Catalog
variable {entries entries' arranged arranged' tokens : List Token} {token : Token}
  {kind : AssetKind} {mint : Address} {catalog catalog' : Catalog}

section Merged

/-- The merged tokens are those listed last for their mint. -/
theorem mem_merge_iff : token ∈ merge entries ↔ LastListed entries token := by
  have hfound : token ∈ merge entries ∧ token.mint = token.mint ↔
      token.mint = token.mint ∧ LastListed entries token :=
    (find?_mint_eq_some_iff (nodup_merge entries)).symm.trans find?_merge_eq_some_iff
  simpa using hfound

private theorem mint_mem_merge_iff :
    mint ∈ (merge entries).map Token.mint ↔ mint ∈ entries.map Token.mint := by
  constructor
  · intro hmint
    obtain ⟨token, htoken, rfl⟩ := List.mem_map.1 hmint
    exact List.mem_map_of_mem (mem_of_mem_merge htoken)
  · intro hmint
    obtain ⟨entry, hentry, rfl⟩ := List.mem_map.1 hmint
    obtain ⟨token, htoken⟩ := exists_find?_merge hentry
    have hmem := (find?_mint_eq_some_iff (nodup_merge entries)).1 htoken
    exact List.mem_map.2 ⟨token, hmem⟩

private theorem lastListed_iff_mem (h : (entries.map Token.mint).Nodup) :
    LastListed entries token ↔ token ∈ entries := by
  induction entries with
  | nil => exact iff_of_false not_lastListed_nil nofun
  | cons entry entries ih =>
    rw [List.map_cons, List.nodup_cons] at h
    rw [lastListed_cons, ih h.2, List.mem_cons, or_comm]
    refine or_congr_left (and_iff_left_of_imp ?_)
    rintro rfl other hother hmint
    exact h.1 (List.mem_map.2 ⟨other, hother, hmint⟩)

private theorem exists_filter_eq_singleton_iff (h : tokens.Nodup) :
    (∃ only, tokens.filter (fun token => token.kind = kind) = [only]) ↔
      ∃! token, token ∈ tokens ∧ token.kind = kind := by
  constructor
  · rintro ⟨only, honly⟩
    exact ⟨only, of_only honly, fun token htoken => (mem_only_iff honly).1 htoken⟩
  · rintro ⟨only, honly, hunique⟩
    refine ⟨only, List.perm_singleton.1 ?_⟩
    refine (List.perm_ext_iff_of_nodup (h.filter _) (List.nodup_singleton only)).2 fun token => ?_
    rw [List.mem_filter, decide_eq_true_eq, List.mem_singleton]
    exact ⟨hunique token, fun htoken => htoken ▸ honly⟩

private theorem exists_single_eq_ok_iff :
    (∃ only, single kind tokens = .ok only) ↔
      ∃ only, tokens.filter (fun token => token.kind = kind) = [only] := by
  unfold single
  split
  case h_1 hnone => exact iff_of_false nofun (by rw [hnone]; nofun)
  case h_2 only honly => exact iff_of_true ⟨_, rfl⟩ ⟨only, honly⟩
  case h_3 hmore => exact iff_of_false nofun (by rw [hmore]; nofun)

end Merged

private theorem decimals_le_of_ofArranged {h : arranged.Perm (merge entries)}
    (hcatalog : ofArranged h = .ok catalog) :
    ∀ entry ∈ entries, entry.decimals ≤ Amount.maxDecimals := by
  unfold ofArranged at hcatalog
  split at hcatalog
  case h_1 => cases hcatalog
  case h_2 hsound => simpa using List.find?_eq_none.1 hsound

private theorem exists_ofArranged (h : arranged.Perm (merge entries))
    (hdecimals : ∀ entry ∈ entries, entry.decimals ≤ Amount.maxDecimals)
    (hstable : ∃ stable, single .stable arranged = .ok stable)
    (hleveraged : ∃ leveraged, single .leveragedToken arranged = .ok leveraged) :
    ∃ catalog, ofArranged h = .ok catalog := by
  obtain ⟨stable, hstable⟩ := hstable
  obtain ⟨leveraged, hleveraged⟩ := hleveraged
  unfold ofArranged
  split
  case h_1 entry hunsound =>
    have hlt := List.find?_some hunsound
    rw [decide_eq_true_eq, ← UInt8.not_le] at hlt
    exact absurd (hdecimals entry (List.mem_of_find?_eq_some hunsound)) hlt
  case h_2 =>
    rw [hstable, hleveraged]
    exact ⟨_, rfl⟩

/-- What is asked of entries. What is listed again is replaced, but its decimals are asked of it
all the same. -/
structure Mergeable (entries : List Token) : Prop where
  decimals_le : ∀ entry ∈ entries, entry.decimals ≤ 18
  one_stable : ∃! token, LastListed entries token ∧ token.kind = .stable
  one_leveraged : ∃! token, LastListed entries token ∧ token.kind = .leveragedToken

private theorem exists_only_iff (h : arranged.Perm (merge entries)) :
    (∃ only, arranged.filter (fun token => token.kind = kind) = [only]) ↔
      ∃! token, LastListed entries token ∧ token.kind = kind := by
  have hnodup : arranged.Nodup := h.nodup_iff.2 (nodup_merge entries).of_map
  rw [exists_filter_eq_singleton_iff hnodup]
  exact existsUnique_congr fun token => by rw [h.mem_iff, mem_merge_iff]

private theorem exists_ofArranged_iff (h : arranged.Perm (merge entries)) :
    (∃ catalog, ofArranged h = .ok catalog) ↔ Mergeable entries := by
  constructor
  · rintro ⟨catalog, hcatalog⟩
    have htokens := tokens_of_ofArranged hcatalog
    exact {
      decimals_le := decimals_le_of_ofArranged hcatalog
      one_stable := (exists_only_iff h).1 ⟨_, htokens ▸ catalog.stable_only⟩
      one_leveraged := (exists_only_iff h).1 ⟨_, htokens ▸ catalog.leveraged_only⟩ }
  · intro hmergeable
    exact exists_ofArranged h hmergeable.decimals_le
      (exists_single_eq_ok_iff.2 ((exists_only_iff h).2 hmergeable.one_stable))
      (exists_single_eq_ok_iff.2 ((exists_only_iff h).2 hmergeable.one_leveraged))

/-- A catalog that knows what was listed last for each mint, and nothing else. -/
structure LastWins (catalog : Catalog) (entries : List Token) : Prop where
  get?_eq_some_iff (mint : Address) (token : Token) :
    catalog.get? mint = some token ↔ token.mint = mint ∧ LastListed entries token
  get?_eq_none_iff (mint : Address) : catalog.get? mint = none ↔ mint ∉ entries.map Token.mint
  size_eq : catalog.size = (entries.map Token.mint).toFinset.card
  stable_iff (token : Token) :
    LastListed entries token ∧ token.kind = .stable ↔ token = catalog.stable
  leveraged_iff (token : Token) :
    LastListed entries token ∧ token.kind = .leveragedToken ↔ token = catalog.leveraged
  get?_stable : catalog.get? catalog.stable.mint = some catalog.stable
  get?_leveraged : catalog.get? catalog.leveraged.mint = some catalog.leveraged
  isStableMint_iff (mint : Address) :
    catalog.isStableMint mint = true ↔ (catalog.identify mint).kind = .stable
  mint_identify (mint : Address) : (catalog.identify mint).mint = some mint

private theorem isStableMint_iff_kind :
    catalog.isStableMint mint = true ↔ (catalog.identify mint).kind = .stable := by
  rw [isStableMint_iff, identify]
  cases hfound : catalog.get? mint with
  | none =>
    refine iff_of_false ?_ nofun
    rintro rfl
    rw [get?_of_mem (of_only catalog.stable_only).1] at hfound
    cases hfound
  | some token =>
    obtain ⟨htoken, rfl⟩ := get?_eq_some_iff_mem.1 hfound
    constructor
    · intro hmint
      rw [hmint, get?_of_mem (of_only catalog.stable_only).1] at hfound
      cases hfound
      exact (of_only catalog.stable_only).2
    · intro hkind
      rw [(mem_only_iff catalog.stable_only).1 ⟨htoken, hkind⟩]

private theorem lastWins_of_ofArranged {h : arranged.Perm (merge entries)}
    (hcatalog : ofArranged h = .ok catalog) : catalog.LastWins entries := by
  have hperm : catalog.tokens.Perm (merge entries) := tokens_of_ofArranged hcatalog ▸ h
  have hmem (token : Token) : token ∈ catalog.tokens ↔ LastListed entries token :=
    hperm.mem_iff.trans mem_merge_iff
  have hmint (mint : Address) :
      mint ∈ catalog.tokens.map Token.mint ↔ mint ∈ entries.map Token.mint :=
    (hperm.map Token.mint).mem_iff.trans mint_mem_merge_iff
  exact {
    get?_eq_some_iff := fun mint token => by rw [get?_eq_some_iff_mem, hmem, and_comm]
    get?_eq_none_iff := fun mint => by
      rw [← hmint, ← Option.not_isSome_iff_eq_none, isSome_get?_iff, List.mem_map]
    size_eq := by
      rw [size, ← List.length_map Token.mint, ← List.toFinset_card_of_nodup catalog.nodup_mints]
      exact congrArg Finset.card (List.toFinset.ext hmint)
    stable_iff := fun token => by rw [← hmem, mem_only_iff catalog.stable_only]
    leveraged_iff := fun token => by rw [← hmem, mem_only_iff catalog.leveraged_only]
    get?_stable := get?_of_mem (of_only catalog.stable_only).1
    get?_leveraged := get?_of_mem (of_only catalog.leveraged_only).1
    isStableMint_iff := fun _ => isStableMint_iff_kind
    mint_identify := catalog.mint_identify }

/-- No question tells the two catalogs apart. -/
structure SameAnswers (catalog catalog' : Catalog) : Prop where
  get?_eq (mint : Address) : catalog.get? mint = catalog'.get? mint
  identify_eq (mint : Address) : catalog.identify mint = catalog'.identify mint
  isStableMint_eq (mint : Address) : catalog.isStableMint mint = catalog'.isStableMint mint
  stable_eq : catalog.stable = catalog'.stable
  leveraged_eq : catalog.leveraged = catalog'.leveraged
  size_eq : catalog.size = catalog'.size

private theorem LastWins.sameAnswers (h : catalog.LastWins entries)
    (h' : catalog'.LastWins entries')
    (hlast : ∀ token, LastListed entries token ↔ LastListed entries' token) :
    SameAnswers catalog catalog' := by
  have hget (mint : Address) : catalog.get? mint = catalog'.get? mint := by
    refine Option.ext fun token => ?_
    rw [h.get?_eq_some_iff, h'.get?_eq_some_iff, hlast]
  have hstable : catalog.stable = catalog'.stable := by
    rw [← h'.stable_iff, ← hlast, h.stable_iff]
  have hleveraged : catalog.leveraged = catalog'.leveraged := by
    rw [← h'.leveraged_iff, ← hlast, h.leveraged_iff]
  have hmint (mint : Address) : mint ∈ entries.map Token.mint ↔ mint ∈ entries'.map Token.mint := by
    rw [← not_iff_not, ← h.get?_eq_none_iff, ← h'.get?_eq_none_iff, hget]
  exact {
    get?_eq := hget
    identify_eq := fun mint => by rw [identify, identify, hget]
    isStableMint_eq := fun mint => by rw [isStableMint, isStableMint, hstable]
    stable_eq := hstable
    leveraged_eq := hleveraged
    size_eq := by
      rw [h.size_eq, h'.size_eq]
      exact congrArg Finset.card (List.toFinset.ext hmint) }

private theorem Mergeable.congr (h : Mergeable entries)
    (hmem : ∀ token, token ∈ entries ↔ token ∈ entries')
    (hlast : ∀ token, LastListed entries token ↔ LastListed entries' token) :
    Mergeable entries' where
  decimals_le := fun entry hentry => h.decimals_le entry ((hmem entry).2 hentry)
  one_stable := (existsUnique_congr fun token => by rw [hlast]).1 h.one_stable
  one_leveraged := (existsUnique_congr fun token => by rw [hlast]).1 h.one_leveraged

/-- Only what is listed and what is listed last matter to a catalog. -/
private theorem alike_ofArranged (h : arranged.Perm (merge entries))
    (h' : arranged'.Perm (merge entries')) (hmem : ∀ token, token ∈ entries ↔ token ∈ entries')
    (hlast : ∀ token, LastListed entries token ↔ LastListed entries' token) :
    Outcome.Alike SameAnswers (ofArranged h) (ofArranged h') := by
  refine .of_ok (fun catalog hcatalog => ?_) fun catalog' hcatalog' => ?_
  · have hmergeable := (exists_ofArranged_iff h).1 ⟨catalog, hcatalog⟩
    obtain ⟨catalog', hcatalog'⟩ := (exists_ofArranged_iff h').2 (hmergeable.congr hmem hlast)
    exact ⟨catalog', hcatalog',
      (lastWins_of_ofArranged hcatalog).sameAnswers (lastWins_of_ofArranged hcatalog') hlast⟩
  · have hmergeable := (exists_ofArranged_iff h').1 ⟨catalog', hcatalog'⟩
    exact (exists_ofArranged_iff h).2
      (hmergeable.congr (fun token => (hmem token).symm) fun token => (hlast token).symm)

/-- However the merged tokens are held, entries make a catalog exactly when they are mergeable, and
then the last entry of each mint wins. The order of entries whose mints differ is immaterial. -/
theorem ofArranged_last_wins {entries arranged : List Token} (h : arranged.Perm (merge entries)) :
    ofArranged (.refl (merge entries)) = ofEntries entries ∧
    ((∃ catalog, ofArranged h = .ok catalog) ↔ Mergeable entries) ∧
    (∀ catalog, ofArranged h = .ok catalog → catalog.LastWins entries) ∧
    ((entries.map Token.mint).Nodup →
      ∀ (entries' arranged' : List Token) (h' : arranged'.Perm (merge entries')),
        entries.Perm entries' → Outcome.Alike SameAnswers (ofArranged h) (ofArranged h')) := by
  refine ⟨ofArranged_refl entries, exists_ofArranged_iff h, fun _ => lastWins_of_ofArranged, ?_⟩
  intro hnodup entries' arranged' h' hentries
  have hnodup' : (entries'.map Token.mint).Nodup := (hentries.map Token.mint).nodup_iff.1 hnodup
  refine alike_ofArranged h h' (fun token => hentries.mem_iff) fun token => ?_
  rw [lastListed_iff_mem hnodup, lastListed_iff_mem hnodup', hentries.mem_iff]

def corrected : List Token :=
  [⟨.filled 3, "sHYUSD", "sHYUSD", 9, .stakedStable⟩, ⟨.filled 1, "hyUSD", "hyUSD", 6, .stable⟩,
    ⟨.filled 2, "xSOL", "xSOL", 6, .leveragedToken⟩,
    ⟨.filled 3, "sHYUSD", "sHYUSD", 6, .stakedStable⟩]

theorem ofArranged_last_wins_corrected :
    (∃ catalog, ofArranged (List.reverse_perm (merge corrected)) = .ok catalog ∧
      catalog.LastWins corrected) ∧
    ∃ catalog catalog', ofArranged (.refl (merge corrected.tail)) = .ok catalog ∧
      ofArranged (.refl (merge corrected.tail.reverse)) = .ok catalog' ∧
      SameAnswers catalog catalog' := by
  have hmade : ((ofArranged (List.reverse_perm (merge corrected))).map fun _ => ()) = .ok () := by
    decide +kernel
  have hmade' : ((ofArranged (.refl (merge corrected.tail))).map fun _ => ()) = .ok () := by
    decide +kernel
  obtain ⟨catalog, hcatalog, -⟩ := Outcome.map_eq_ok.1 hmade
  obtain ⟨catalog', hcatalog', -⟩ := Outcome.map_eq_ok.1 hmade'
  obtain ⟨-, -, hwins, -⟩ := ofArranged_last_wins (List.reverse_perm (merge corrected))
  obtain ⟨-, -, -, halike⟩ := ofArranged_last_wins (.refl (merge corrected.tail))
  refine ⟨⟨catalog, hcatalog, hwins catalog hcatalog⟩, ?_⟩
  obtain ⟨a, b, ha, hb, hab⟩ | ⟨e, e', he, -⟩ := (halike (by decide +kernel) corrected.tail.reverse
    (merge corrected.tail.reverse) (.refl _) (List.reverse_perm _).symm).cases
  · exact ⟨a, b, ha, hb, hab⟩
  · cases he.symm.trans hcatalog'

end TradeTracker.Catalog

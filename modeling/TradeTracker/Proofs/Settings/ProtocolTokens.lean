import Mathlib.Data.List.Forall2
import TradeTracker.Proofs.Outcome
import TradeTracker.Proofs.Token.Catalog
import TradeTracker.Settings.Basic

/-! The protocol's tokens in checked settings. The stable and the leveraged token are in the catalog
as they are written, since no extra token can be of their kinds. The staked one is there as it is
written unless its mint is written again behind it. -/
namespace TradeTracker

private theorem exists_split_of_forall₂ {α β : Type} {R : α → β → Prop} {before after : List α}
    {a : α} {others : List β} (h : List.Forall₂ R (before ++ a :: after) others) :
    ∃ before' b after', others = before' ++ b :: after' ∧ R a b ∧ List.Forall₂ R after after' := by
  induction before generalizing others with
  | nil =>
    obtain ⟨b, after', hb, hafter, rfl⟩ := List.forall₂_cons_left_iff.1 h
    exact ⟨[], b, after', rfl, hb, hafter⟩
  | cons first before ih =>
    obtain ⟨other, rest, -, hrest, rfl⟩ := List.forall₂_cons_left_iff.1 h
    obtain ⟨before', b, after', rfl, hb, hafter⟩ := ih hrest
    exact ⟨other :: before', b, after', rfl, hb, hafter⟩

structure Token.ReadFrom (token : Token) (mint symbol name : String) (decimals : UInt8)
    (kind : AssetKind) : Prop where
  mint : Address.read (Text.trim mint) = .ok token.mint
  symbol_eq : token.symbol = symbol
  name_eq : token.name = name
  decimals_eq : token.decimals = decimals
  kind_eq : token.kind = kind

private theorem Token.ReadFrom.unique {a b : Token} {mint symbol name : String} {decimals : UInt8}
    {kind : AssetKind} (ha : a.ReadFrom mint symbol name decimals kind)
    (hb : b.ReadFrom mint symbol name decimals kind) : a = b := by
  obtain ⟨amint, rfl, rfl, rfl, rfl⟩ := ha
  obtain ⟨bmint, hsymbol, hname, hdecimals, hkind⟩ := hb
  have hmint : a.mint = b.mint := Except.ok.inj (amint.symm.trans bmint)
  cases a
  cases b
  simp_all

def WrittenToken.Configures (written : WrittenToken) (kind : AssetKind)
    (defaults : Settings.TokenDefaults) (token : Token) : Prop :=
  token.ReadFrom written.mint (written.symbol.getD defaults.symbol)
    (written.name.getD defaults.name) (written.decimals.getD defaults.decimals) kind

def WrittenExtra.Lists (extra : WrittenExtra) (token : Token) : Prop :=
  token.ReadFrom extra.mint extra.symbol (extra.name.getD extra.symbol) extra.decimals extra.kind

def WrittenExtra.HasMint (extra : WrittenExtra) (mint : Address) : Prop :=
  Address.read (Text.trim extra.mint) = .ok mint

namespace WrittenTokens

/-- The last extra token that is written with a mint. -/
def LastExtra (tokens : WrittenTokens) (mint : Address) (extra : WrittenExtra) : Prop :=
  ∃ before after, tokens.extra = before ++ extra :: after ∧ extra.HasMint mint ∧
    ∀ other ∈ after, ¬ other.HasMint mint

/-- The mint of the staked token is not that of the leveraged one, and where extra tokens are
written with it the last of them says the same. -/
structure SparesStakedStable (tokens : WrittenTokens) : Prop where
  apart : Address.read (Text.trim tokens.stakedStable.mint) ≠
    Address.read (Text.trim tokens.leveraged.mint)
  lists : ∀ token extra,
    tokens.stakedStable.Configures .stakedStable Settings.stakedStableDefaults token →
      tokens.LastExtra token.mint extra → extra.Lists token

end WrittenTokens

namespace Settings
variable {written : WrittenSettings} {settings : Settings}

/-- What settings keep of what is written, whatever the extra tokens are. -/
structure KeepsTokens (settings : Settings) (written : WrittenSettings) : Prop where
  stable : written.tokens.stable.Configures .stable stableDefaults settings.registry.catalog.stable
  leveraged : written.tokens.leveraged.Configures .leveragedToken leveragedDefaults
    settings.registry.catalog.leveraged
  get?_stable : settings.registry.catalog.get? settings.registry.catalog.stable.mint =
    some settings.registry.catalog.stable
  get?_leveraged : settings.registry.catalog.get? settings.registry.catalog.leveraged.mint =
    some settings.registry.catalog.leveraged
  decimals_le : ∀ token ∈ settings.registry.catalog.tokens, token.decimals ≤ 18
  one_le_maxRetries : 1 ≤ settings.maxRetries
  one_le_concurrency : 1 ≤ settings.concurrency

def KeepsStakedStable (settings : Settings) (written : WrittenSettings) : Prop :=
  ∃ token, written.tokens.stakedStable.Configures .stakedStable stakedStableDefaults token ∧
    settings.registry.catalog.get? token.mint = some token

private theorem left_le_max {α : Type} [LE α] [DecidableLE α] (hrefl : ∀ a : α, a ≤ a) (a b : α) :
    a ≤ maxOfLe.max a b := by
  change a ≤ if a ≤ b then b else a
  split_ifs with hle
  · exact hle
  · exact hrefl a

private theorem map_readAddress_eq_ok {owner mint symbol name : String} {decimals : UInt8}
    {kind : AssetKind} {token : Token} :
    (readAddress owner mint).map (fun mint => (⟨mint, symbol, name, decimals, kind⟩ : Token)) =
      .ok token ↔ token.ReadFrom mint symbol name decimals kind := by
  rw [Outcome.map_eq_ok]
  constructor
  · rintro ⟨address, haddress, rfl⟩
    exact ⟨Outcome.mapError_eq_ok.1 haddress, rfl, rfl, rfl, rfl⟩
  · rintro ⟨hmint, rfl, rfl, rfl, rfl⟩
    exact ⟨token.mint, Outcome.mapError_eq_ok.2 hmint, rfl⟩

private theorem configures_of_protocolToken {kind : AssetKind} {defaults : TokenDefaults}
    {token : WrittenToken} {t : Token} (h : protocolToken kind defaults token = .ok t) :
    token.Configures kind defaults t := by
  unfold protocolToken at h
  dsimp only at h
  split_ifs at h
  exact map_readAddress_eq_ok.1 h

private theorem lists_of_extraToken {extra : WrittenExtra} {token : Token}
    (h : extraToken extra = .ok token) :
    extra.Lists token ∧ token.kind ≠ .stable ∧ token.kind ≠ .leveragedToken := by
  unfold extraToken at h
  split_ifs at h with hkind
  have hlists : extra.Lists token := map_readAddress_eq_ok.1 h
  rw [hlists.kind_eq]
  exact ⟨hlists, not_or.1 hkind⟩

structure Entries (tokens : WrittenTokens) where
  stable : Token
  stakedStable : Token
  leveraged : Token
  extra : List Token
  configures_stable : tokens.stable.Configures .stable stableDefaults stable
  configures_stakedStable :
    tokens.stakedStable.Configures .stakedStable stakedStableDefaults stakedStable
  configures_leveraged : tokens.leveraged.Configures .leveragedToken leveragedDefaults leveraged
  lists : List.Forall₂ WrittenExtra.Lists tokens.extra extra
  extra_kind : ∀ token ∈ extra, token.kind ≠ .stable ∧ token.kind ≠ .leveragedToken

def Entries.all {tokens : WrittenTokens} (e : Entries tokens) : List Token :=
  [e.stable, e.stakedStable, e.leveraged] ++ e.extra

private theorem exists_entries {tokens : WrittenTokens} {entries : List Token}
    (h : tokenEntries tokens = .ok entries) : ∃ e : Entries tokens, e.all = entries := by
  unfold tokenEntries at h
  obtain ⟨stable, hstable, h⟩ := Outcome.bind_eq_ok.1 h
  obtain ⟨stakedStable, hstaked, h⟩ := Outcome.bind_eq_ok.1 h
  obtain ⟨leveraged, hleveraged, h⟩ := Outcome.bind_eq_ok.1 h
  obtain ⟨extra, hextra, h⟩ := Outcome.bind_eq_ok.1 h
  cases h
  refine ⟨⟨stable, stakedStable, leveraged, extra, configures_of_protocolToken hstable,
    configures_of_protocolToken hstaked, configures_of_protocolToken hleveraged, ?_, ?_⟩, rfl⟩
  · exact (Outcome.mapM_eq_ok_iff.1 hextra).imp fun _ _ h => (lists_of_extraToken h).1
  · intro token htoken
    obtain ⟨_, -, htoken⟩ := Outcome.exists_of_mem_mapM hextra htoken
    exact (lists_of_extraToken htoken).2

private theorem ofWritten_eq_ok (h : ofWritten written = .ok settings) :
    ∃ e : Entries written.tokens, Catalog.ofEntries e.all = .ok settings.registry.catalog ∧
      settings.maxRetries = max 1 (written.node.maxRetries.getD 3) ∧
      settings.concurrency = max 1 (written.node.concurrency.getD 8) := by
  unfold ofWritten at h
  dsimp only at h
  split_ifs at h
  obtain ⟨_, -, h⟩ := Outcome.bind_eq_ok.1 h
  obtain ⟨_, -, h⟩ := Outcome.bind_eq_ok.1 h
  obtain ⟨entries, hentries, h⟩ := Outcome.bind_eq_ok.1 h
  obtain ⟨catalog, hcatalog, h⟩ := Outcome.bind_eq_ok.1 h
  cases h
  obtain ⟨e, rfl⟩ := exists_entries hentries
  exact ⟨e, Outcome.mapError_eq_ok.1 hcatalog, rfl, rfl⟩

namespace Entries
variable {tokens : WrittenTokens} {catalog : Catalog} {token : Token}

private theorem mem_all (e : Entries tokens) : token ∈ e.all ↔
    token = e.stable ∨ token = e.stakedStable ∨ token = e.leveraged ∨ token ∈ e.extra := by
  simp [all]

private theorem eq_stable (e : Entries tokens) (h : token ∈ e.all) (hkind : token.kind = .stable) :
    token = e.stable := by
  rcases e.mem_all.1 h with rfl | rfl | rfl | h
  · rfl
  · cases hkind.symm.trans e.configures_stakedStable.kind_eq
  · cases hkind.symm.trans e.configures_leveraged.kind_eq
  · exact absurd hkind (e.extra_kind token h).1

private theorem eq_leveraged (e : Entries tokens) (h : token ∈ e.all)
    (hkind : token.kind = .leveragedToken) : token = e.leveraged := by
  rcases e.mem_all.1 h with rfl | rfl | rfl | h
  · cases hkind.symm.trans e.configures_stable.kind_eq
  · cases hkind.symm.trans e.configures_stakedStable.kind_eq
  · rfl
  · exact absurd hkind (e.extra_kind token h).2

open Catalog (LastListed)

private theorem exists_lastListed (e : Entries tokens) {mint : Address} {extra : WrittenExtra}
    (h : tokens.LastExtra mint extra) :
    ∃ token, extra.Lists token ∧ token.mint = mint ∧ LastListed e.extra token := by
  obtain ⟨before, after, hsplit, hmint, hlast⟩ := h
  have hlists := e.lists
  rw [hsplit] at hlists
  obtain ⟨before', token, after', hextra, htoken, hafter⟩ := exists_split_of_forall₂ hlists
  have htokenMint : token.mint = mint := Except.ok.inj (htoken.mint.symm.trans hmint)
  refine ⟨token, htoken, htokenMint, before', after', hextra, fun other hother heq => ?_⟩
  obtain ⟨later, hlater, hlists⟩ := Outcome.exists_of_mem_forall₂ hafter hother
  apply hlast later hlater
  rw [WrittenExtra.HasMint, hlists.mint, heq, htokenMint]

private theorem exists_lastExtra (e : Entries tokens) (h : LastListed e.extra token) :
    ∃ extra, extra.Lists token ∧ tokens.LastExtra token.mint extra := by
  obtain ⟨before, after, hsplit, hlast⟩ := h
  have hlists := e.lists.flip
  rw [hsplit] at hlists
  obtain ⟨before', extra, after', hextra, htoken, hafter⟩ := exists_split_of_forall₂ hlists
  refine ⟨extra, htoken, before', after', hextra, htoken.mint, fun later hlater hmint => ?_⟩
  obtain ⟨other, hother, hlists⟩ := Outcome.exists_of_mem_forall₂ hafter hlater
  exact hlast other hother (Except.ok.inj (hlists.mint.symm.trans hmint))

section Catalog
variable (e : Entries tokens) (h : Catalog.ofEntries e.all = .ok catalog)
include h

private theorem stable_eq : catalog.stable = e.stable := by
  obtain ⟨hmem, hkind⟩ := Catalog.of_only catalog.stable_only
  exact e.eq_stable (Catalog.mem_of_ofEntries h hmem) hkind

private theorem leveraged_eq : catalog.leveraged = e.leveraged := by
  obtain ⟨hmem, hkind⟩ := Catalog.of_only catalog.leveraged_only
  exact e.eq_leveraged (Catalog.mem_of_ofEntries h hmem) hkind

private theorem get?_leveraged : catalog.get? e.leveraged.mint = some e.leveraged := by
  rw [← e.leveraged_eq h]
  exact Catalog.get?_of_mem (Catalog.of_only catalog.leveraged_only).1

private theorem sparesStakedStable_of_get?
    (hget : catalog.get? e.stakedStable.mint = some e.stakedStable) :
    tokens.SparesStakedStable where
  apart hmint := by
    rw [e.configures_stakedStable.mint, e.configures_leveraged.mint] at hmint
    rw [Except.ok.inj hmint, e.get?_leveraged h, Option.some_inj] at hget
    have hkind := e.configures_leveraged.kind_eq
    rw [hget, e.configures_stakedStable.kind_eq] at hkind
    cases hkind
  lists token extra hconfigures hextra := by
    obtain rfl := hconfigures.unique e.configures_stakedStable
    obtain ⟨listed, hlists, hmint, hlast⟩ := e.exists_lastListed hextra
    have hfound : catalog.get? e.stakedStable.mint = some listed := by
      rw [Catalog.get?_eq_some_iff h]
      exact ⟨hmint, Catalog.lastListed_append.2 (.inl hlast)⟩
    rw [hget, Option.some_inj] at hfound
    rwa [hfound]

/-- Whatever the catalog has for the mint of the staked token was listed last: the leveraged token
has another mint, the stable one would have been replaced, and an extra one is the same. -/
private theorem get?_of_sparesStakedStable (hspares : tokens.SparesStakedStable) :
    catalog.get? e.stakedStable.mint = some e.stakedStable := by
  obtain ⟨token, hget⟩ := Catalog.exists_get? h (e.mem_all.2 (.inr (.inl rfl)))
  obtain ⟨hmint, hlast⟩ := (Catalog.get?_eq_some_iff h).1 hget
  simp only [all, List.cons_append, List.nil_append, Catalog.lastListed_cons] at hlast
  rcases hlast with ((hextra | ⟨rfl, -⟩) | ⟨rfl, -⟩) | ⟨rfl, hlater⟩
  · obtain ⟨extra, hlists, hlastExtra⟩ := e.exists_lastExtra hextra
    rw [hmint] at hlastExtra
    have hstaked := hspares.lists _ extra e.configures_stakedStable hlastExtra
    rw [hget, hlists.unique hstaked]
  · have hapart := hspares.apart
    rw [e.configures_stakedStable.mint, e.configures_leveraged.mint, hmint] at hapart
    exact absurd rfl hapart
  · exact hget
  · have hne := hlater e.stakedStable List.mem_cons_self
    exact absurd hmint.symm hne

end Catalog

end Entries

/-- The stable and the leveraged token are kept, and so is the staked one exactly where its mint is
not written again with something else. -/
theorem protocolTokens_kept (h : ofWritten written = .ok settings) :
    settings.KeepsTokens written ∧
      (settings.KeepsStakedStable written ↔ written.tokens.SparesStakedStable) := by
  obtain ⟨e, hcatalog, hretries, hconcurrency⟩ := ofWritten_eq_ok h
  refine ⟨⟨?_, ?_, ?_, ?_, ?_, ?_, ?_⟩, ?_⟩
  · rw [e.stable_eq hcatalog]
    exact e.configures_stable
  · rw [e.leveraged_eq hcatalog]
    exact e.configures_leveraged
  · exact Catalog.get?_of_mem (Catalog.of_only (Catalog.stable_only _)).1
  · exact Catalog.get?_of_mem (Catalog.of_only (Catalog.leveraged_only _)).1
  · exact Catalog.decimals_le _
  · rw [hretries]
    exact left_le_max UInt32.le_refl _ _
  · rw [hconcurrency]
    exact left_le_max UInt64.le_refl _ _
  · constructor
    · rintro ⟨token, hconfigures, hget⟩
      rw [hconfigures.unique e.configures_stakedStable] at hget
      exact e.sparesStakedStable_of_get? hcatalog hget
    · intro hspares
      have hget := e.get?_of_sparesStakedStable hcatalog hspares
      exact ⟨e.stakedStable, e.configures_stakedStable, hget⟩

def withExtra (extra : List WrittenExtra) : WrittenSettings :=
  { WrittenSettings.default with tokens := { WrittenTokens.default with extra := extra } }

/-- The mint of the staked token under another name. -/
def relisted : WrittenExtra :=
  ⟨"HnnGv3HrSqjRpgdFmx7vQGjntNEoex1SU4e9Lxcxuihz", "FAKE", none, 9, .referenceStable⟩

def restored : WrittenExtra :=
  ⟨"HnnGv3HrSqjRpgdFmx7vQGjntNEoex1SU4e9Lxcxuihz", "sHYUSD", some "Staked hyUSD", 6, .stakedStable⟩

def stakedSymbol? (settings : Settings) (written : WrittenSettings) : Option String :=
  ((Address.read? (Text.trim written.tokens.stakedStable.mint)).bind
    settings.registry.catalog.get?).map (·.symbol)

private theorem KeepsStakedStable.stakedSymbol? (h : settings.KeepsStakedStable written) :
    settings.stakedSymbol? written =
      some (written.tokens.stakedStable.symbol.getD stakedStableDefaults.symbol) := by
  obtain ⟨token, hconfigures, hget⟩ := h
  have hread : Address.read? (Text.trim written.tokens.stakedStable.mint) = some token.mint := by
    rw [Address.read?, hconfigures.mint]
    rfl
  rw [Settings.stakedSymbol?, hread, Option.bind_some, hget, Option.map_some,
    hconfigures.symbol_eq]

private theorem sparesStakedStable_restored :
    (withExtra [relisted, restored]).tokens.SparesStakedStable where
  apart := by decide +kernel
  lists := by
    rintro token extra hconfigures ⟨before, after, hsplit, hmint, hlast⟩
    have hrestored : restored.HasMint token.mint := hconfigures.mint
    rcases List.eq_nil_or_concat after with rfl | ⟨rest, last, rfl⟩
    · have hlists : [relisted] ++ [restored] = before ++ [extra] := hsplit
      obtain ⟨-, hextra⟩ := List.append_inj' hlists rfl
      cases hextra
      exact hconfigures
    · have hlists : [relisted] ++ [restored] = (before ++ extra :: rest) ++ [last] := by
        rw [List.append_assoc, List.cons_append]
        rwa [List.concat_eq_append] at hsplit
      obtain ⟨-, hextra⟩ := List.append_inj' hlists rfl
      cases hextra
      exact absurd hrestored (hlast restored (by simp))

/-- An extra token that says the same as the staked one makes up for one that does not. -/
theorem protocolTokens_kept_restored :
    ∃ settings, ofWritten (withExtra [relisted, restored]) = .ok settings ∧
      settings.KeepsTokens (withExtra [relisted, restored]) ∧
      settings.KeepsStakedStable (withExtra [relisted, restored]) := by
  have hread : (ofWritten (withExtra [relisted, restored])).map (fun _ => ()) = .ok () := by
    decide +kernel
  obtain ⟨settings, h, -⟩ := Outcome.map_eq_ok.1 hread
  obtain ⟨hkeeps, hstaked⟩ := protocolTokens_kept h
  exact ⟨settings, h, hkeeps, hstaked.2 sparesStakedStable_restored⟩

/-- An extra token of any other kind takes the place of the staked one. -/
theorem not_keepsStakedStable_relisted :
    ∃ settings, ofWritten (withExtra [relisted]) = .ok settings ∧
      ¬ settings.KeepsStakedStable (withExtra [relisted]) := by
  have hread : (ofWritten (withExtra [relisted])).map (·.stakedSymbol? (withExtra [relisted])) =
      .ok (some "FAKE") := by
    decide +kernel
  obtain ⟨settings, h, hsymbol⟩ := Outcome.map_eq_ok.1 hread
  refine ⟨settings, h, fun hkeeps => ?_⟩
  rw [hkeeps.stakedSymbol?] at hsymbol
  exact absurd hsymbol (by decide)

end Settings
end TradeTracker

import TradeTracker.Address
import TradeTracker.Amount
import TradeTracker.Token.Kind

/-! The catalog of known tokens. A later entry of a mint replaces an earlier one, and what remains
has exactly one stable and one leveraged token. -/
namespace TradeTracker

structure Token where
  mint : Address
  symbol : String
  name : String
  decimals : UInt8
  kind : AssetKind
deriving DecidableEq, Repr

/-- What an amount is denominated in; the native unit has no mint. -/
structure AssetIdentity where
  mint : Option Address
  symbol : String
  kind : AssetKind
deriving DecidableEq, Repr

namespace AssetIdentity

def native : AssetIdentity := ⟨none, "SOL", .nativeUnit⟩

def unlisted (mint : Address) : AssetIdentity := ⟨some mint, "UNKNOWN", .unknown⟩

def ofToken (token : Token) : AssetIdentity := ⟨some token.mint, token.symbol, token.kind⟩

def isNative (identity : AssetIdentity) : Bool := identity.mint.isNone

end AssetIdentity

def nativeDecimals : UInt8 := 9

inductive CatalogError
  | tooManyDecimals (symbol : String) (decimals : UInt8)
  | missing (kind : AssetKind)
  | repeated (kind : AssetKind)
deriving DecidableEq, Repr

def CatalogError.message : CatalogError → String
  | tooManyDecimals symbol decimals =>
    symbol ++ " has " ++ decimals.toNat.repr ++ " decimals, at most " ++
      Amount.maxDecimals.toNat.repr ++ " supported"
  | missing kind => "Token registry has no " ++ kind.label ++ " entry"
  | repeated kind => "Token registry has more than one " ++ kind.label ++ " entry"

/-- The merged entries, with the two tokens that every trade is read against. -/
structure Catalog where
  tokens : List Token
  stable : Token
  leveraged : Token
  nodup_mints : (tokens.map Token.mint).Nodup
  decimals_le : ∀ token ∈ tokens, token.decimals ≤ Amount.maxDecimals
  stable_only : tokens.filter (fun token => token.kind = .stable) = [stable]
  leveraged_only : tokens.filter (fun token => token.kind = .leveragedToken) = [leveraged]

namespace Catalog

/-- An entry takes the place of the token of its mint; without one it comes last. -/
def put (tokens : List Token) (entry : Token) : List Token :=
  if entry.mint ∈ tokens.map Token.mint then
    tokens.map fun token => if token.mint = entry.mint then entry else token
  else tokens ++ [entry]

/-- One entry for each mint, its last one, at the place of its first. -/
def merge (entries : List Token) : List Token := entries.foldl put []

private theorem mints_replace (tokens : List Token) (entry : Token) :
    (tokens.map fun token => if token.mint = entry.mint then entry else token).map Token.mint =
      tokens.map Token.mint := by
  rw [List.map_map]
  refine List.map_congr_left fun token _ => ?_
  by_cases h : token.mint = entry.mint <;> simp [h]

private theorem nodup_put {tokens : List Token} (entry : Token)
    (h : (tokens.map Token.mint).Nodup) : ((put tokens entry).map Token.mint).Nodup := by
  unfold put
  split
  · rwa [mints_replace]
  · rename_i hnew
    rw [List.map_append, List.nodup_append]
    refine ⟨h, by simp, ?_⟩
    rintro mint hmint _ hentry rfl
    exact hnew (List.mem_singleton.1 hentry ▸ hmint)

private theorem mem_of_mem_put {tokens : List Token} {entry token : Token}
    (h : token ∈ put tokens entry) : token ∈ tokens ∨ token = entry := by
  unfold put at h
  split at h
  · obtain ⟨replaced, hreplaced, rfl⟩ := List.mem_map.1 h
    split
    · exact .inr rfl
    · exact .inl hreplaced
  · exact (List.mem_append.1 h).imp_right List.mem_singleton.1

private theorem nodup_foldl_put {tokens : List Token} (entries : List Token)
    (h : (tokens.map Token.mint).Nodup) : ((entries.foldl put tokens).map Token.mint).Nodup := by
  induction entries generalizing tokens with
  | nil => exact h
  | cons entry entries ih => exact ih (nodup_put entry h)

private theorem mem_of_mem_foldl_put {entries tokens : List Token} {token : Token}
    (h : token ∈ entries.foldl put tokens) : token ∈ tokens ∨ token ∈ entries := by
  induction entries generalizing tokens with
  | nil => exact .inl h
  | cons entry entries ih =>
    rcases ih h with hput | hentries
    · refine (mem_of_mem_put hput).imp_right ?_
      rintro rfl
      exact List.mem_cons_self
    · exact .inr (List.mem_cons_of_mem entry hentries)

/-- Merging leaves every mint once. -/
theorem nodup_merge (entries : List Token) : ((merge entries).map Token.mint).Nodup :=
  nodup_foldl_put entries List.nodup_nil

/-- Nothing is in a merge that was not an entry. -/
theorem mem_of_mem_merge {entries : List Token} {token : Token} (h : token ∈ merge entries) :
    token ∈ entries :=
  (mem_of_mem_foldl_put h).resolve_left List.not_mem_nil

def single (kind : AssetKind) (tokens : List Token) :
    Except CatalogError { token : Token // tokens.filter (fun t => t.kind = kind) = [token] } :=
  match h : tokens.filter (fun t => t.kind = kind) with
  | [] => .error (.missing kind)
  | [token] => .ok ⟨token, h⟩
  | _ :: _ :: _ => .error (.repeated kind)

/-- The catalog of a list of entries. Precision is looked at before anything is replaced, so even
an entry that is replaced later has to be sound. -/
def ofEntries (entries : List Token) : Except CatalogError Catalog :=
  match h : entries.find? (fun entry => Amount.maxDecimals < entry.decimals) with
  | some entry => .error (.tooManyDecimals entry.symbol entry.decimals)
  | none =>
    match single .stable (merge entries) with
    | .error e => .error e
    | .ok ⟨stable, hs⟩ =>
      match single .leveragedToken (merge entries) with
      | .error e => .error e
      | .ok ⟨leveraged, hl⟩ =>
        .ok {
          tokens := merge entries
          stable := stable
          leveraged := leveraged
          nodup_mints := nodup_merge entries
          decimals_le := fun token ht => by
            have := List.find?_eq_none.1 h token (mem_of_mem_merge ht)
            simpa using this
          stable_only := hs
          leveraged_only := hl }

def get? (catalog : Catalog) (mint : Address) : Option Token :=
  catalog.tokens.find? fun token => token.mint = mint

def identify (catalog : Catalog) (mint : Address) : AssetIdentity :=
  match catalog.get? mint with
  | some token => .ofToken token
  | none => .unlisted mint

def isStableMint (catalog : Catalog) (mint : Address) : Bool := catalog.stable.mint = mint

def size (catalog : Catalog) : Nat := catalog.tokens.length

end Catalog

structure ProtocolPrograms where
  exchange : Address
  stabilityPool : Address
deriving DecidableEq, Repr

/-- A short name of a protocol program; an address that plays both roles is the exchange. -/
def ProtocolPrograms.label? (programs : ProtocolPrograms) (program : Address) : Option String :=
  if program = programs.exchange then some "exchange"
  else if program = programs.stabilityPool then some "stability_pool"
  else none

/-- All that classification reads besides the transaction. -/
structure Registry where
  programs : ProtocolPrograms
  catalog : Catalog

end TradeTracker

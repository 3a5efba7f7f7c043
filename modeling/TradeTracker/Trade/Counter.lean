import TradeTracker.Trade.Basic
import TradeTracker.Transaction.BalanceChange

/-! The asset exchanged against the tracked token. A route through several tokens moves all of
them the same way; the winner is first the asset with the strongest role and then the larger
amount, so a hop on the way never outranks the settlement leg. -/
namespace TradeTracker

structure CounterAsset where
  identity : AssetIdentity
  rawAmount : UInt64
  decimals : UInt8
  source : CounterSource
deriving DecidableEq, Repr

namespace CounterAsset

def amount (counter : CounterAsset) : String := Amount.format counter.rawAmount counter.decimals

def none : CounterAsset := ⟨.native, 0, nativeDecimals, .default⟩

/-- A buyer spent the counter asset, a seller got it. -/
def expectedDirection? : TradeSide → Option Direction
  | .buy => some .decrease
  | .sell => some .increase
  | .receive => Option.none

/-- A stronger role wins whatever the amounts; in one role the larger amount wins; an exact tie
changes nothing. -/
def outranks (candidate current : CounterAsset) : Bool :=
  current.identity.kind.rank < candidate.identity.kind.rank ||
    (current.identity.kind.rank == candidate.identity.kind.rank &&
      current.rawAmount < candidate.rawAmount)

/-- The first of the candidates that no other outranks. Of lamport moves the program keeps the last
of the largest instead, but moves of one size are one candidate. -/
def best? (candidates : List CounterAsset) : Option CounterAsset :=
  candidates.foldl
    (fun best candidate =>
      match best with
      | Option.none => some candidate
      | some current => if outranks candidate current then some candidate else some current)
    Option.none

/-- Lamport changes outside the target, of accounts reported on both sides, in a direction. -/
def nativeMoves (m : TransactionMeta) (target : Nat) (expected : Direction) : List BalanceChange :=
  m.nativeChanges.filter fun change => change.index ≠ target ∧ change.direction = expected

/-- Lamport accounts carry no mint, so a move of lamports is taken for the native unit. -/
def ofNative (change : BalanceChange) : CounterAsset :=
  ⟨.native, change.size, nativeDecimals, .nativeBalance⟩

/-- Token changes outside the target and the tracked mint, in a direction. -/
def tokenMoves (changes : List BalanceChange) (target : Nat) (tracked : Address)
    (expected : Direction) : List BalanceChange :=
  changes.filter fun change =>
    change.mint.isSome ∧ change.index ≠ target ∧ change.mint ≠ some tracked ∧
      change.netDirection = expected

def ofToken? (catalog : Catalog) (change : BalanceChange) : Option CounterAsset :=
  change.mint.map fun mint => {
    identity := catalog.identify mint
    rawAmount := change.size
    decimals := change.decimals
    source := if (catalog.get? mint).isSome then .catalog else .unlistedMint }

/-- A token is given up for the native unit only if that moved by a larger raw amount. -/
def settle : (token native : Option CounterAsset) → CounterAsset
  | some token, some native => if token.rawAmount < native.rawAmount then native else token
  | some token, Option.none => token
  | Option.none, some native => native
  | Option.none, Option.none => none

/-- The counter asset of a trade on the account at `target`. Fails only where some account's token
amount is none. -/
def resolve (catalog : Catalog) (m : TransactionMeta) (target : Nat) (tracked : Address)
    (side : TradeSide) : Except AmountError CounterAsset :=
  match expectedDirection? side with
  | Option.none => .ok none
  | some expected => do
    let changes ← m.tokenChanges
    let tokens := (tokenMoves changes target tracked expected).filterMap (ofToken? catalog)
    let natives := (nativeMoves m target expected).map ofNative
    .ok (settle (best? tokens) (best? natives))

end CounterAsset
end TradeTracker

/-! The roles a token can play. Their order decides which of several tokens that moved together
was the one exchanged: the protocol's stable token beats everything, an unknown token nothing. -/
namespace TradeTracker

/-- From the weakest claim on a trade to the strongest. -/
inductive AssetKind
  | unknown
  | nativeUnit
  | liquidStakingToken
  | referenceStable
  | leveragedToken
  | stakedStable
  | stable
deriving DecidableEq, Repr, Inhabited

namespace AssetKind

/-- The position in the order, higher wins. -/
def rank : AssetKind → Nat
  | unknown => 0
  | nativeUnit => 1
  | liquidStakingToken => 2
  | referenceStable => 3
  | leveragedToken => 4
  | stakedStable => 5
  | stable => 6

/-- The name in prose. -/
def label : AssetKind → String
  | unknown => "Unknown"
  | nativeUnit => "Native"
  | liquidStakingToken => "LST"
  | referenceStable => "Reference stable"
  | leveragedToken => "Leveraged"
  | stakedStable => "Staked stable"
  | stable => "Stable"

/-- The name in records and settings. -/
def name : AssetKind → String
  | unknown => "unknown"
  | nativeUnit => "native_unit"
  | liquidStakingToken => "liquid_staking_token"
  | referenceStable => "reference_stable"
  | leveragedToken => "leveraged_token"
  | stakedStable => "staked_stable"
  | stable => "stable"

def all : List AssetKind :=
  [unknown, nativeUnit, liquidStakingToken, referenceStable, leveragedToken, stakedStable, stable]

def choices : List (String × AssetKind) := all.map fun kind => (kind.name, kind)

/-- Kinds with the same rank are the same. -/
theorem rank_injective {a b : AssetKind} (h : a.rank = b.rank) : a = b := by
  revert h
  cases a <;> cases b <;> decide

/-- Weakest first; kinds of one rank keep their places. -/
def sorted (kinds : List AssetKind) : List AssetKind :=
  kinds.mergeSort fun a b => a.rank ≤ b.rank

end AssetKind
end TradeTracker

import TradeTracker.Token.Catalog
import TradeTracker.Transaction.Snapshot

/-! Changes of one account's balance in a transaction. Two readings are kept apart: the strict one
needs both sides reported, the net one takes a missing side for zero. -/
namespace TradeTracker

inductive Direction
  | increase
  | decrease
  | unchanged
deriving DecidableEq, Repr

namespace Direction

def ofChange (n : Int) : Direction :=
  if 0 < n then increase else if n < 0 then decrease else unchanged

def name : Direction → String
  | increase => "increase"
  | decrease => "decrease"
  | unchanged => "none"

end Direction

inductive BalancePresence
  | absent
  | postOnly
  | preOnly
  | both
deriving DecidableEq, Repr

structure BalanceChange where
  index : Nat
  mint : Option Address
  before : Option UInt64
  after : Option UInt64
  decimals : UInt8
deriving DecidableEq, Repr

namespace BalanceChange

def presence (change : BalanceChange) : BalancePresence :=
  match change.before, change.after with
  | none, none => .absent
  | none, some _ => .postOnly
  | some _, none => .preOnly
  | some _, some _ => .both

/-- After less before, 0 unless both are reported. -/
def strict (change : BalanceChange) : Int :=
  match change.before, change.after with
  | some before, some after => (after.toNat : Int) - before.toNat
  | _, _ => 0

/-- After less before, a missing side being 0. -/
def net (change : BalanceChange) : Int :=
  ((change.after.getD 0).toNat : Int) - (change.before.getD 0).toNat

def direction (change : BalanceChange) : Direction := .ofChange change.strict

def netDirection (change : BalanceChange) : Direction := .ofChange change.net

/-- The size of the net change, which never exceeds the larger side. -/
def size (change : BalanceChange) : UInt64 := UInt64.ofNat change.net.natAbs

/-- The size of a change in full: two 64-bit numbers differ by less than `2 ^ 64`. -/
theorem toNat_size (change : BalanceChange) : change.size.toNat = change.net.natAbs := by
  have ha := (change.after.getD 0).toNat_lt
  have hb := (change.before.getD 0).toNat_lt
  rw [size, UInt64.toNat_ofNat']
  apply Nat.mod_eq_of_lt
  unfold net
  omega

end BalanceChange

namespace TransactionMeta

def nativeChange (m : TransactionMeta) (index : Nat) : BalanceChange :=
  ⟨index, none, m.preBalances[index]?, m.postBalances[index]?, nativeDecimals⟩

def entryAmount (entry : Option TokenBalance) : Except AmountError (Option UInt64) :=
  match entry with
  | none => .ok none
  | some balance => (Amount.parseRaw balance.amount).map some

/-- The change from one entry to another, described by the later one. -/
def entryChange (index : Nat) (mint : Option Address) (pre post : Option TokenBalance) :
    Except AmountError BalanceChange := do
  let before ← entryAmount pre
  let after ← entryAmount post
  .ok ⟨index, mint, before, after, ((post.or pre).map (·.decimals)).getD 0⟩

/-- The tokens of one account, by the first entry on each side, whatever their mints. -/
def tokenChange (m : TransactionMeta) (index : Nat) : Except AmountError BalanceChange :=
  let pre := firstEntry? m.preTokenBalances index
  let post := firstEntry? m.postTokenBalances index
  entryChange index ((post.or pre).map (·.mint)) pre post

/-- The tokens of one account, by the first entry of `mint` on each side. -/
def tokenChangeOf (m : TransactionMeta) (index : Nat) (mint : Address) :
    Except AmountError BalanceChange :=
  entryChange index (some mint) (firstEntryOf? m.preTokenBalances index mint)
    (firstEntryOf? m.postTokenBalances index mint)

def nativeChanges (m : TransactionMeta) : List BalanceChange :=
  (List.range (max m.preBalances.length m.postBalances.length)).map m.nativeChange

/-- The tokens of every account that either side reports, or the first amount that is none. -/
def tokenChanges (m : TransactionMeta) : Except AmountError (List BalanceChange) :=
  m.tokenAccounts.mapM m.tokenChange

end TransactionMeta
end TradeTracker

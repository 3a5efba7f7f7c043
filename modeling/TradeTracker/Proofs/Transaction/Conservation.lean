import Mathlib.Algebra.BigOperators.Group.List.Basic
import Mathlib.Algebra.Order.Ring.Int
import TradeTracker.Proofs.Token.Catalog
import TradeTracker.Proofs.Transaction.TokenChanges

/-! Nothing is lost or counted twice in the changes of a transaction. They add up to what all the
accounts hold after it less what they held before. -/
namespace TradeTracker

namespace BalanceChange

private theorem strict_eq (change : BalanceChange) :
    change.strict = if change.presence = .both then change.net else 0 := by
  obtain ⟨index, mint, before, after, decimals⟩ := change
  cases before <;> cases after <;> rfl

private theorem size_eq_abs (change : BalanceChange) :
    (change.size.toNat : Int) = |change.net| := by
  rw [toNat_size, Int.natCast_natAbs]

end BalanceChange

def TokenBalance.units (entry : TokenBalance) : Int := Text.digitsValue entry.amount.toList

namespace TransactionMeta

private theorem sum_map_sub {α : Type} (items : List α) (f g : α → Int) :
    (items.map fun a => f a - g a).sum = (items.map f).sum - (items.map g).sum := by
  rw [eq_sub_iff_add_eq, ← List.sum_map_add]
  simp only [sub_add_cancel]

def totalLamports (lamports : List UInt64) : Int := (lamports.map fun n => (n.toNat : Int)).sum

def totalUnits (balances : List TokenBalance) : Int := (balances.map (·.units)).sum

variable {m : TransactionMeta} {index : Nat}

section Native
variable {lamports : List UInt64}

private theorem sum_range_getD {accounts : Nat} (h : lamports.length ≤ accounts) :
    ((List.range accounts).map fun index => ((lamports[index]?.getD 0).toNat : Int)).sum =
      totalLamports lamports := by
  induction lamports generalizing accounts with
  | nil => simp [totalLamports]
  | cons n lamports ih =>
    cases accounts with
    | zero => cases h
    | succ accounts =>
      rw [List.range_succ_eq_map, List.map_cons, List.map_map, List.sum_cons]
      exact congrArg ((n.toNat : Int) + ·) (ih (Nat.le_of_succ_le_succ h))

private theorem map_index_nativeChanges (m : TransactionMeta) :
    m.nativeChanges.map (·.index) =
      List.range (max m.preBalances.length m.postBalances.length) := by
  rw [nativeChanges, List.map_map]
  exact List.map_id _

private theorem sum_net_nativeChanges (m : TransactionMeta) :
    (m.nativeChanges.map (·.net)).sum =
      totalLamports m.postBalances - totalLamports m.preBalances := by
  rw [← sum_range_getD (le_max_right m.preBalances.length m.postBalances.length),
    ← sum_range_getD (le_max_left m.preBalances.length m.postBalances.length), ← sum_map_sub,
    nativeChanges, List.map_map]
  rfl

end Native

section Token
variable {balances : List TokenBalance} {entry : TokenBalance} {change : BalanceChange}

/-- The units that the first entry of an account says, 0 without an entry. -/
def held (balances : List TokenBalance) (index : Nat) : Int :=
  firstEntry? balances index |>.elim 0 (·.units)

private theorem held_cons (entry : TokenBalance) (balances : List TokenBalance) :
    held (entry :: balances) = fun index =>
      if index = entry.accountIndex.toNat then entry.units else held balances index := by
  funext index
  rw [held, firstEntry?, List.find?_cons]
  split_ifs with hindex
  · rw [decide_eq_true hindex.symm]
    rfl
  · rw [decide_eq_false (Ne.symm hindex)]
    rfl

private theorem held_of_not_listed (h : ∀ entry ∈ balances, entry.accountIndex.toNat ≠ index) :
    held balances index = 0 := by
  have hnone : firstEntry? balances index = none := by
    refine List.find?_eq_none.2 fun entry hentry => ?_
    rw [decide_eq_true_eq]
    exact h entry hentry
  rw [held, hnone]
  rfl

/-- Over distinct accounts that include those of the entries, every entry counts once. -/
private theorem sum_held {accounts : List Nat} (haccounts : accounts.Nodup)
    (hone : (balances.map (·.accountIndex)).Nodup)
    (hlisted : ∀ entry ∈ balances, entry.accountIndex.toNat ∈ accounts) :
    (accounts.map (held balances)).sum = totalUnits balances := by
  induction balances with
  | nil =>
    have hnothing : held [] = fun _ => 0 := rfl
    simp [hnothing, totalUnits]
  | cons entry balances ih =>
    rw [List.map_cons, List.nodup_cons] at hone
    have hrest := ih hone.2 fun other hother => hlisted other (List.mem_cons_of_mem entry hother)
    have hcount : accounts.count entry.accountIndex.toNat = 1 :=
      List.count_eq_one_of_mem haccounts (hlisted entry List.mem_cons_self)
    have hzero : held balances entry.accountIndex.toNat = 0 := by
      refine held_of_not_listed fun other hother hindex => hone.1 ?_
      exact List.mem_map.2 ⟨other, hother, UInt8.toNat_inj.1 hindex⟩
    rw [held_cons, List.sum_map_ite_eq, hcount, hzero, hrest, one_nsmul, sub_zero]
    rfl

private theorem AmountsTo.units {found : Option TokenBalance} {n : UInt64} (h : AmountsTo found n) :
    found.elim 0 (·.units) = n.toNat := by
  obtain ⟨amount, hshows, rfl⟩ := h
  cases hshows with
  | absent => rfl
  | present h => exact congrArg Nat.cast h.value_eq

private theorem net_of_tokenChange (h : m.tokenChange index = .ok change) :
    change.net = held m.postTokenBalances index - held m.preTokenBalances index := by
  obtain ⟨-, -, hbefore, hafter⟩ := of_tokenChange h
  exact congrArg₂ (· - ·) hafter.units.symm hbefore.units.symm

private theorem mem_entryAccounts :
    index ∈ m.entryAccounts ↔
      ∃ entry ∈ m.preTokenBalances ++ m.postTokenBalances, entry.accountIndex.toNat = index :=
  List.mem_map

/-- Where no account has two entries on one side the first ones are all there are. -/
private theorem sum_net_tokenChanges (hone : m.OneEntryEach) {changes : List BalanceChange}
    (h : m.tokenChanges = .ok changes) :
    (changes.map (·.net)).sum =
      totalUnits m.postTokenBalances - totalUnits m.preTokenBalances := by
  have hlisted {entry : TokenBalance} (hentry : entry ∈ m.preTokenBalances ++ m.postTokenBalances) :
      entry.accountIndex.toNat ∈ m.tokenAccounts :=
    mem_firstSeen.2 (mem_entryAccounts.2 ⟨entry, hentry, rfl⟩)
  have hpost := sum_held (nodup_firstSeen m.entryAccounts) hone.post_nodup
    fun entry hentry => hlisted (List.mem_append_right _ hentry)
  have hpre := sum_held (nodup_firstSeen m.entryAccounts) hone.pre_nodup
    fun entry hentry => hlisted (List.mem_append_left _ hentry)
  rw [← hpost, ← hpre, ← sum_map_sub]
  exact congrArg List.sum (Outcome.map_eq_map_of_mapM h fun _ _ => net_of_tokenChange)

end Token

/-- The changes of a transaction conserve value. Lamports are taken account by account, up to the
end of the longer list; token accounts are taken once each, in the order in which they are first
seen. -/
theorem changes_conserve (m : TransactionMeta) :
    m.nativeChanges.map (·.index) =
        List.range (max m.preBalances.length m.postBalances.length) ∧
      (m.nativeChanges.map (·.net)).sum =
        totalLamports m.postBalances - totalLamports m.preBalances ∧
      (∀ index, index ∈ m.tokenAccounts ↔
        ∃ entry ∈ m.preTokenBalances ++ m.postTokenBalances, entry.accountIndex.toNat = index) ∧
      m.tokenAccounts.Nodup ∧
      m.tokenAccounts.Pairwise (fun a b => m.entryAccounts.idxOf a < m.entryAccounts.idxOf b) ∧
      (m.Readable → m.OneEntryEach →
        ∃ changes, m.tokenChanges = .ok changes ∧ changes.map (·.index) = m.tokenAccounts ∧
          (changes.map (·.net)).sum =
            totalUnits m.postTokenBalances - totalUnits m.preTokenBalances) ∧
      ∀ change : BalanceChange, (change.size.toNat : Int) = |change.net| ∧
        change.strict = if change.presence = .both then change.net else 0 := by
  refine ⟨m.map_index_nativeChanges, m.sum_net_nativeChanges,
    fun index => mem_firstSeen.trans mem_entryAccounts, nodup_firstSeen m.entryAccounts,
    pairwise_firstSeen m.entryAccounts, fun hreadable hone => ?_,
    fun change => ⟨change.size_eq_abs, change.strict_eq⟩⟩
  obtain ⟨changes, hchanges⟩ := hreadable.tokenChanges
  exact ⟨changes, hchanges, map_index_of_tokenChanges hchanges, sum_net_tokenChanges hone hchanges⟩

/-- One account pays a new one and is closed, another one keeps what it has. The last of three
lamport balances is not reported afterwards. -/
def movedOn : TransactionMeta where
  error := none
  preBalances := [10, 7, 5]
  postBalances := [8, 9]
  preTokenBalances := [⟨3, .filled 1, "100", 6⟩, ⟨1, .filled 1, "40", 6⟩]
  postTokenBalances := [⟨1, .filled 1, "40", 6⟩, ⟨5, .filled 1, "99", 6⟩]

theorem changes_conserve_movedOn :
    (movedOn.nativeChanges.map (·.net)).sum = -5 ∧
      ∃ changes, movedOn.tokenChanges = .ok changes ∧ changes.map (·.index) = [3, 1, 5] ∧
        (changes.map (·.net)).sum = -1 := by
  obtain ⟨-, hnative, -, -, -, htoken, -⟩ := changes_conserve movedOn
  have hreadable : movedOn.Readable := by
    intro entry hentry
    simp only [movedOn, List.cons_append, List.nil_append, List.mem_cons, List.not_mem_nil,
      or_false] at hentry
    rcases hentry with rfl | rfl | rfl | rfl
    · exact ⟨100, Amount.parseRaw_eq_ok_iff.1 (by decide)⟩
    · exact ⟨40, Amount.parseRaw_eq_ok_iff.1 (by decide)⟩
    · exact ⟨40, Amount.parseRaw_eq_ok_iff.1 (by decide)⟩
    · exact ⟨99, Amount.parseRaw_eq_ok_iff.1 (by decide)⟩
  obtain ⟨changes, hchanges, hindex, hsum⟩ := htoken hreadable ⟨by decide, by decide⟩
  exact ⟨hnative.trans (by decide), changes, hchanges, hindex.trans (by decide),
    hsum.trans (by decide)⟩

end TransactionMeta
end TradeTracker

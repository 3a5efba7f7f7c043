import TradeTracker.Proofs.Transaction.TokenChanges

/-! A transaction played backwards: what was there before is there after, and the other way round.
Every change of a balance is then the same change in the other direction. Changes of tokens come in
another order, since accounts are listed in the order in which their entries are seen. -/
namespace TradeTracker

def Direction.mirror : Direction → Direction
  | increase => decrease
  | decrease => increase
  | unchanged => unchanged

namespace Direction

@[simp] theorem mirror_mirror (direction : Direction) : direction.mirror.mirror = direction := by
  cases direction <;> rfl

theorem mirror_inj {a b : Direction} : a.mirror = b.mirror ↔ a = b :=
  (Function.LeftInverse.injective mirror_mirror).eq_iff

private theorem ofChange_neg (n : Int) : ofChange (-n) = (ofChange n).mirror := by
  unfold ofChange
  rcases Int.lt_trichotomy n 0 with hneg | rfl | hpos
  · rw [if_pos (by omega), if_neg (by omega), if_pos hneg]
    rfl
  · rfl
  · rw [if_neg (by omega), if_pos (by omega), if_pos hpos]
    rfl

end Direction

namespace BalanceChange

/-- One account's balances, the other way round. The decimals are those of the later entry. -/
structure Mirrors (change change' : BalanceChange) : Prop where
  index_eq : change.index = change'.index
  mint_eq : change.mint = change'.mint
  before_eq : change.before = change'.after
  after_eq : change.after = change'.before

namespace Mirrors
variable {change change' : BalanceChange}

private theorem net_eq (h : change.Mirrors change') : change'.net = -change.net := by
  rw [net, net, h.before_eq, h.after_eq]
  omega

private theorem strict_eq (h : change.Mirrors change') : change'.strict = -change.strict := by
  rw [strict, strict, h.before_eq, h.after_eq]
  match change'.before, change'.after with
  | some before, some after => exact (Int.neg_sub _ _).symm
  | none, none => rfl
  | none, some after => rfl
  | some before, none => rfl

theorem size_eq (h : change.Mirrors change') : change'.size = change.size := by
  rw [size, size, h.net_eq, Int.natAbs_neg]

theorem direction_eq (h : change.Mirrors change') :
    change'.direction = change.direction.mirror := by
  rw [direction, direction, h.strict_eq, Direction.ofChange_neg]

theorem netDirection_eq (h : change.Mirrors change') :
    change'.netDirection = change.netDirection.mirror := by
  rw [netDirection, netDirection, h.net_eq, Direction.ofChange_neg]

end Mirrors

end BalanceChange

namespace TransactionMeta

def mirror (m : TransactionMeta) : TransactionMeta where
  error := m.error
  preBalances := m.postBalances
  postBalances := m.preBalances
  preTokenBalances := m.postTokenBalances
  postTokenBalances := m.preTokenBalances

/-- The entries of one account, on either side, are of one mint. -/
def OneMintEach (m : TransactionMeta) : Prop :=
  ∀ entry ∈ m.preTokenBalances ++ m.postTokenBalances,
    ∀ other ∈ m.preTokenBalances ++ m.postTokenBalances,
      entry.accountIndex = other.accountIndex → entry.mint = other.mint

variable {m : TransactionMeta} {index : Nat} {change : BalanceChange}

theorem OneMintEach.mirror (h : m.OneMintEach) : m.mirror.OneMintEach := by
  have hsides : ∀ entry, entry ∈ m.mirror.preTokenBalances ++ m.mirror.postTokenBalances →
      entry ∈ m.preTokenBalances ++ m.postTokenBalances :=
    fun entry hentry => List.mem_append.2 (List.mem_append.1 hentry).symm
  exact fun entry hentry other hother => h entry (hsides entry hentry) other (hsides other hother)

theorem OneMintEach.mint_eq (h : m.OneMintEach) {pre post : TokenBalance}
    (hpre : m.preEntry index = some pre) (hpost : m.postEntry index = some post) :
    pre.mint = post.mint := by
  obtain ⟨hpre, hindex⟩ := of_firstEntry_eq_some hpre
  obtain ⟨hpost, hindex'⟩ := of_firstEntry_eq_some hpost
  exact h pre (List.mem_append_left _ hpre) post (List.mem_append_right _ hpost)
    (UInt8.toNat_inj.1 (hindex.trans hindex'.symm))

private theorem OneMintEach.map_mint_or (h : m.OneMintEach) (index : Nat) :
    ((m.postEntry index).or (m.preEntry index)).map (·.mint) =
      ((m.preEntry index).or (m.postEntry index)).map (·.mint) := by
  cases hpre : m.preEntry index with
  | none => rw [Option.or_none, Option.none_or]
  | some pre =>
    cases hpost : m.postEntry index with
    | none => rfl
    | some post => exact congrArg some (h.mint_eq hpre hpost).symm

private theorem exists_tokenChange_mirror (h : m.OneMintEach)
    (hchange : m.tokenChange index = .ok change) :
    ∃ change', m.mirror.tokenChange index = .ok change' ∧ change.Mirrors change' := by
  rw [tokenChange_eq] at hchange
  obtain ⟨before, after, hbefore, hafter, rfl⟩ := entryChange_eq_ok_iff.1 hchange
  rw [tokenChange_eq]
  refine ⟨_, entryChange_eq_ok_iff.2 ⟨after, before, hafter, hbefore, rfl⟩, ?_⟩
  exact ⟨rfl, h.map_mint_or index, rfl, rfl⟩

theorem tokenChange_mirror (h : m.OneMintEach) (index : Nat) :
    Outcome.Alike BalanceChange.Mirrors (m.tokenChange index) (m.mirror.tokenChange index) := by
  refine .of_ok (fun change => exists_tokenChange_mirror h) fun change' hchange' => ?_
  obtain ⟨change, hchange, -⟩ := exists_tokenChange_mirror h.mirror hchange'
  exact ⟨change, hchange⟩

private theorem tokenAccounts_mirror (m : TransactionMeta) :
    m.tokenAccounts.Perm m.mirror.tokenAccounts :=
  firstSeen_perm (List.perm_append_comm.map _)

/-- The changes are read off both or neither. They are mirror images one by one, but for their
order. -/
theorem tokenChanges_mirror (h : m.OneMintEach) :
    Outcome.Alike (Relation.Comp (List.Forall₂ BalanceChange.Mirrors) List.Perm)
      m.tokenChanges m.mirror.tokenChanges :=
  (Outcome.alike_mapM fun index _ => tokenChange_mirror h index).trans
    (Outcome.alike_mapM_of_perm m.tokenAccounts_mirror)

theorem nativeChanges_mirror (m : TransactionMeta) :
    List.Forall₂ BalanceChange.Mirrors m.nativeChanges m.mirror.nativeChanges := by
  rw [nativeChanges, nativeChanges, mirror, Nat.max_comm, List.forall₂_map_left_iff,
    List.forall₂_map_right_iff, List.forall₂_same]
  exact fun index _ => ⟨rfl, rfl, rfl, rfl⟩

end TransactionMeta

def TransactionSnapshot.mirror (snapshot : TransactionSnapshot) : TransactionSnapshot :=
  { snapshot with metadata := snapshot.metadata.map TransactionMeta.mirror }

end TradeTracker

import Mathlib.Data.List.Induction
import Mathlib.Data.List.Nodup
import TradeTracker.Proofs.Amount.Raw

/-! The token changes of a transaction as a list: one for each account that either side reports,
read off its first entries. Where no account has two entries on one side, the order of the entries
decides nothing but the order of that list. -/
namespace TradeTracker

private theorem find?_eq_of_perm {α : Type} {p : α → Bool} {items items' : List α}
    (honly : ∀ a ∈ items, ∀ b ∈ items, p a = true → p b = true → a = b)
    (h : items.Perm items') : items.find? p = items'.find? p := by
  cases hfound : items.find? p with
  | none =>
    rw [List.find?_eq_none] at hfound
    exact (List.find?_eq_none.2 fun a ha => hfound a (h.mem_iff.2 ha)).symm
  | some a =>
    have ha := List.mem_of_find?_eq_some hfound
    have hpa := List.find?_some hfound
    cases hfound' : items'.find? p with
    | none => exact absurd hpa (List.find?_eq_none.1 hfound' a (h.mem_iff.1 ha))
    | some b =>
      have hb := h.mem_iff.2 (List.mem_of_find?_eq_some hfound')
      rw [honly a ha b hb hpa (List.find?_some hfound')]

/-- The amount is digits, at least one, that are a number of 64 bits. -/
def TokenBalance.WellFormed (entry : TokenBalance) : Prop := ∃ n, Amount.Denotes entry.amount n

namespace TransactionMeta

section FirstSeen
variable {α : Type} [DecidableEq α] {items items' : List α}

private theorem firstSeen_append_singleton (items : List α) (a : α) :
    firstSeen (items ++ [a]) =
      if a ∈ firstSeen items then firstSeen items else firstSeen items ++ [a] := by
  rw [firstSeen, List.foldl_append, List.foldl_cons, List.foldl_nil]
  rfl

theorem mem_firstSeen {a : α} : a ∈ firstSeen items ↔ a ∈ items := by
  induction items using List.reverseRecOn with
  | nil => exact Iff.rfl
  | append_singleton items b ih =>
    rw [firstSeen_append_singleton, List.mem_append, List.mem_singleton]
    split_ifs with hb
    · rw [ih]
      refine (or_iff_left_of_imp ?_).symm
      rintro rfl
      exact ih.1 hb
    · rw [List.mem_append, List.mem_singleton, ih]

theorem nodup_firstSeen (items : List α) : (firstSeen items).Nodup := by
  induction items using List.reverseRecOn with
  | nil => exact List.nodup_nil
  | append_singleton items b ih =>
    rw [firstSeen_append_singleton]
    split_ifs with hb
    · exact ih
    · rw [← List.concat_eq_append, List.nodup_concat]
      exact ⟨hb, ih⟩

theorem firstSeen_perm (h : items.Perm items') : (firstSeen items).Perm (firstSeen items') := by
  rw [List.perm_ext_iff_of_nodup (nodup_firstSeen _) (nodup_firstSeen _)]
  intro a
  rw [mem_firstSeen, mem_firstSeen, h.mem_iff]

/-- The items keep the order of their first occurrences. -/
theorem pairwise_firstSeen (items : List α) :
    (firstSeen items).Pairwise fun a b => items.idxOf a < items.idxOf b := by
  induction items using List.reverseRecOn with
  | nil => exact List.Pairwise.nil
  | append_singleton items last ih =>
    have hfirst : (firstSeen items).Pairwise fun a b =>
        (items ++ [last]).idxOf a < (items ++ [last]).idxOf b := by
      refine List.Pairwise.imp_of_mem (fun ha hb hlt => ?_) ih
      rw [mem_firstSeen] at ha hb
      rwa [List.idxOf_append_of_mem ha, List.idxOf_append_of_mem hb]
    rw [firstSeen_append_singleton]
    split_ifs with hlast
    · exact hfirst
    · refine List.pairwise_append.2 ⟨hfirst, List.pairwise_singleton _ _, fun a ha b hb => ?_⟩
      obtain rfl := List.mem_singleton.1 hb
      rw [mem_firstSeen] at ha hlast
      rw [List.idxOf_append_of_mem ha, List.idxOf_append_of_notMem hlast]
      exact Nat.lt_add_right _ (List.idxOf_lt_length_of_mem ha)

end FirstSeen

def entryAccounts (m : TransactionMeta) : List Nat :=
  (m.preTokenBalances ++ m.postTokenBalances).map fun entry => entry.accountIndex.toNat

variable {m m' : TransactionMeta} {index : Nat} {change : BalanceChange}

private theorem index_of_tokenChange (h : m.tokenChange index = .ok change) :
    change.index = index := by
  rw [tokenChange_eq] at h
  obtain ⟨_, _, -, -, rfl⟩ := entryChange_eq_ok_iff.1 h
  rfl

/-- What a change is read off: the first entries say how much, the later of them says of what. -/
theorem of_tokenChange (h : m.tokenChange index = .ok change) :
    change.mint = ((m.postEntry index).or (m.preEntry index)).map (·.mint) ∧
      change.decimals = (((m.postEntry index).or (m.preEntry index)).map (·.decimals)).getD 0 ∧
      AmountsTo (m.preEntry index) (change.before.getD 0) ∧
      AmountsTo (m.postEntry index) (change.after.getD 0) := by
  rw [tokenChange_eq] at h
  obtain ⟨_, _, hbefore, hafter, rfl⟩ := entryChange_eq_ok_iff.1 h
  exact ⟨rfl, rfl, hbefore.amountsTo, hafter.amountsTo⟩

theorem mem_tokenAccounts {entry : TokenBalance}
    (h : m.preEntry index = some entry ∨ m.postEntry index = some entry) :
    index ∈ m.tokenAccounts := by
  rw [tokenAccounts, mem_firstSeen, List.mem_map]
  rcases h with hpre | hpost
  · obtain ⟨hmem, hindex⟩ := of_firstEntry_eq_some hpre
    exact ⟨entry, List.mem_append_left _ hmem, hindex⟩
  · obtain ⟨hmem, hindex⟩ := of_firstEntry_eq_some hpost
    exact ⟨entry, List.mem_append_right _ hmem, hindex⟩

/-- Every listed change is that of its account. -/
theorem tokenChange_of_mem {changes : List BalanceChange} (h : m.tokenChanges = .ok changes)
    (hmem : change ∈ changes) : m.tokenChange change.index = .ok change := by
  obtain ⟨index, -, hchange⟩ := Outcome.exists_of_mem_mapM h hmem
  rwa [index_of_tokenChange hchange]

/-- The changes are those of the accounts, one each and in their order. -/
theorem map_index_of_tokenChanges {changes : List BalanceChange}
    (h : m.tokenChanges = .ok changes) : changes.map (·.index) = m.tokenAccounts := by
  have hindex : changes.map (·.index) = m.tokenAccounts.map id :=
    Outcome.map_eq_map_of_mapM h fun _ _ => index_of_tokenChange
  rwa [List.map_id] at hindex

/-- The first entry for an account whose mint passes a test. -/
def firstPassing? (balances : List TokenBalance) (index : Nat) (test : Address → Bool) :
    Option TokenBalance :=
  balances.find? fun entry => entry.accountIndex.toNat = index ∧ test entry.mint

private theorem firstEntry?_eq_firstPassing (balances : List TokenBalance) (index : Nat) :
    firstEntry? balances index = firstPassing? balances index fun _ => true := by
  simp [firstPassing?, firstEntry?]

private theorem firstEntryOf?_eq_firstPassing (balances : List TokenBalance) (index : Nat)
    (mint : Address) :
    firstEntryOf? balances index mint = firstPassing? balances index fun found => found = mint := by
  simp [firstEntryOf?, firstPassing?]

section WellFormed
variable {entry : TokenBalance}

private theorem exists_shows {found : Option TokenBalance} (h : ∀ entry ∈ found, entry.WellFormed) :
    ∃ amount, Shows found amount := by
  cases found with
  | none => exact ⟨none, .absent⟩
  | some entry =>
    obtain ⟨n, hn⟩ := h entry rfl
    exact ⟨some n, .present hn⟩

private theorem Shows.wellFormed {amount : Option UInt64} (h : Shows (some entry) amount) :
    entry.WellFormed := by
  cases h with
  | present h => exact ⟨_, h⟩

theorem exists_change_between (index : Nat) (found : Option Address)
    {pre post : Option TokenBalance} (hpre : ∀ entry ∈ pre, entry.WellFormed)
    (hpost : ∀ entry ∈ post, entry.WellFormed) :
    ∃ change, entryChange index found pre post = .ok change := by
  obtain ⟨before, hbefore⟩ := exists_shows hpre
  obtain ⟨after, hafter⟩ := exists_shows hpost
  exact ⟨_, entryChange_eq_ok_iff.2 ⟨before, after, hbefore, hafter, rfl⟩⟩

/-- Every entry shows an amount. -/
def Readable (m : TransactionMeta) : Prop :=
  ∀ entry ∈ m.preTokenBalances ++ m.postTokenBalances, entry.WellFormed

private theorem Readable.exists_entryChange (h : m.Readable) (index : Nat) (found : Option Address)
    (test : Address → Bool) :
    ∃ change, entryChange index found (firstPassing? m.preTokenBalances index test)
      (firstPassing? m.postTokenBalances index test) = .ok change := by
  refine exists_change_between _ _ (fun entry hentry => h entry ?_) fun entry hentry => h entry ?_
  · exact List.mem_append_left _ (List.mem_of_find?_eq_some hentry)
  · exact List.mem_append_right _ (List.mem_of_find?_eq_some hentry)

theorem Readable.tokenChange (h : m.Readable) (index : Nat) :
    ∃ change, m.tokenChange index = .ok change := by
  simp only [TransactionMeta.tokenChange, firstEntry?_eq_firstPassing]
  exact h.exists_entryChange index _ _

theorem Readable.tokenChangeOf (h : m.Readable) (index : Nat) (mint : Address) :
    ∃ change, m.tokenChangeOf index mint = .ok change := by
  simp only [TransactionMeta.tokenChangeOf, firstEntryOf?_eq_firstPassing]
  exact h.exists_entryChange index _ _

theorem Readable.tokenChanges (h : m.Readable) : ∃ changes, m.tokenChanges = .ok changes :=
  Outcome.exists_mapM_eq_ok fun index _ => h.tokenChange index

private theorem wellFormed_of_tokenChange {change : BalanceChange}
    (h : m.tokenChange index = .ok change)
    (hentry : m.preEntry index = some entry ∨ m.postEntry index = some entry) :
    entry.WellFormed := by
  rw [tokenChange_eq] at h
  obtain ⟨before, after, hbefore, hafter, -⟩ := entryChange_eq_ok_iff.1 h
  obtain hentry | hentry := hentry
  · rw [hentry] at hbefore
    exact hbefore.wellFormed
  · rw [hentry] at hafter
    exact hafter.wellFormed

/-- The changes together show that the first entries of every account are well-formed. -/
theorem wellFormed_of_tokenChanges {changes : List BalanceChange}
    (h : m.tokenChanges = .ok changes)
    (hentry : m.preEntry index = some entry ∨ m.postEntry index = some entry) :
    entry.WellFormed := by
  obtain ⟨change, hchange⟩ := Outcome.exists_result_of_mem h (mem_tokenAccounts hentry)
  exact wellFormed_of_tokenChange hchange hentry

end WellFormed

/-- No account has two entries on one side. -/
structure OneEntryEach (m : TransactionMeta) : Prop where
  pre_nodup : (m.preTokenBalances.map (·.accountIndex)).Nodup
  post_nodup : (m.postTokenBalances.map (·.accountIndex)).Nodup

/-- The same in all but the order of the token entries on either side. -/
structure Reordered (m m' : TransactionMeta) : Prop where
  error_eq : m.error = m'.error
  preBalances_eq : m.preBalances = m'.preBalances
  postBalances_eq : m.postBalances = m'.postBalances
  pre_perm : m.preTokenBalances.Perm m'.preTokenBalances
  post_perm : m.postTokenBalances.Perm m'.postTokenBalances

private theorem firstPassing?_eq_of_perm {balances balances' : List TokenBalance}
    (hone : (balances.map (·.accountIndex)).Nodup) (h : balances.Perm balances') (index : Nat)
    (test : Address → Bool) :
    firstPassing? balances index test = firstPassing? balances' index test := by
  refine find?_eq_of_perm (fun a ha b hb hpa hpb => ?_) h
  rw [decide_eq_true_eq] at hpa hpb
  exact List.inj_on_of_nodup_map hone ha hb (UInt8.toNat_inj.1 (hpa.1.trans hpb.1.symm))

/-- For an account both executions have the same first entries, of any mint and of each. -/
structure SameFirst (index : Nat) (m m' : TransactionMeta) : Prop where
  pre_eq : ∀ test, firstPassing? m.preTokenBalances index test =
    firstPassing? m'.preTokenBalances index test
  post_eq : ∀ test, firstPassing? m.postTokenBalances index test =
    firstPassing? m'.postTokenBalances index test

theorem SameFirst.tokenChange_eq (h : SameFirst index m m') :
    m.tokenChange index = m'.tokenChange index := by
  simp only [tokenChange, firstEntry?_eq_firstPassing, h.pre_eq, h.post_eq]

theorem SameFirst.tokenChangeOf_eq (h : SameFirst index m m') (mint : Address) :
    m.tokenChangeOf index mint = m'.tokenChangeOf index mint := by
  simp only [tokenChangeOf, firstEntryOf?_eq_firstPassing, h.pre_eq, h.post_eq]

namespace Reordered

theorem sameFirst (h : m.Reordered m') (hone : m.OneEntryEach) (index : Nat) :
    SameFirst index m m' where
  pre_eq := firstPassing?_eq_of_perm hone.pre_nodup h.pre_perm index
  post_eq := firstPassing?_eq_of_perm hone.post_nodup h.post_perm index

theorem nativeChanges_eq (h : m.Reordered m') : m.nativeChanges = m'.nativeChanges := by
  have hchange : m.nativeChange = m'.nativeChange := by
    funext index
    rw [nativeChange, nativeChange, h.preBalances_eq, h.postBalances_eq]
  rw [nativeChanges, nativeChanges, hchange, h.preBalances_eq, h.postBalances_eq]

/-- The changes are read off both or neither, in some order. -/
theorem tokenChanges_alike (h : m.Reordered m') (hone : m.OneEntryEach) :
    Outcome.Alike List.Perm m.tokenChanges m'.tokenChanges := by
  have haccounts : m.tokenAccounts.Perm m'.tokenAccounts :=
    firstSeen_perm ((h.pre_perm.append h.post_perm).map _)
  have hchange : m.tokenChange = m'.tokenChange :=
    funext fun index => (h.sameFirst hone index).tokenChange_eq
  rw [tokenChanges, tokenChanges, ← hchange]
  exact Outcome.alike_mapM_of_perm haccounts

end Reordered

end TransactionMeta
end TradeTracker

import Mathlib.Logic.Basic
import Mathlib.Tactic.SplitIfs
import TradeTracker.Proofs.Outcome
import TradeTracker.Transaction.BalanceChange

/-! The amounts that token-balance entries show, apart from how they are read. -/
namespace TradeTracker

/-- A text of ASCII digits, at least one, that is a number of 64 bits. -/
structure Amount.Denotes (text : String) (n : UInt64) : Prop where
  ne_nil : text.toList ≠ []
  isDigit : ∀ c ∈ text.toList, c.isDigit
  value_eq : Text.digitsValue text.toList = n.toNat

theorem Amount.parseRaw_eq_ok_iff {text : String} {n : UInt64} :
    Amount.parseRaw text = .ok n ↔ Amount.Denotes text n := by
  have hdigits : Text.allDigits text.toList = false ↔ ¬ ∀ c ∈ text.toList, c.isDigit := by
    rw [Text.allDigits, ← Bool.not_eq_true, List.all_eq_true]
  unfold Amount.parseRaw
  constructor
  · intro h
    split_ifs at h with hempty hbad hlt
    cases h
    exact ⟨hempty, not_not.1 (mt hdigits.2 hbad), (UInt64.toNat_ofNat_of_lt hlt).symm⟩
  · intro h
    have hlt : Text.digitsValue text.toList < UInt64.size := by
      rw [h.value_eq]
      exact n.toNat_lt
    rw [if_neg h.ne_nil, if_neg fun hbad => hdigits.1 hbad h.isDigit, if_pos hlt, h.value_eq,
      UInt64.ofNat_toNat]

namespace TransactionMeta

/-- What an entry says about a balance; no entry says nothing. -/
inductive Shows : Option TokenBalance → Option UInt64 → Prop
  | absent : Shows none none
  | present {entry : TokenBalance} {n : UInt64} (h : Amount.Denotes entry.amount n) :
      Shows (some entry) (some n)

/-- The balance by an entry, 0 where there is none. -/
def AmountsTo (entry : Option TokenBalance) (n : UInt64) : Prop :=
  ∃ amount, Shows entry amount ∧ amount.getD 0 = n

theorem entryAmount_eq_ok_iff {entry : Option TokenBalance} {amount : Option UInt64} :
    entryAmount entry = .ok amount ↔ Shows entry amount := by
  cases entry with
  | none =>
    constructor
    · intro h
      cases h
      exact .absent
    · rintro ⟨⟩
      rfl
  | some entry =>
    rw [entryAmount, Outcome.map_eq_ok]
    constructor
    · rintro ⟨n, hn, rfl⟩
      exact .present (Amount.parseRaw_eq_ok_iff.1 hn)
    · rintro ⟨⟩
      rename_i h
      exact ⟨_, Amount.parseRaw_eq_ok_iff.2 h, rfl⟩

/-- One entry has one reading. -/
theorem Shows.unique {entry : Option TokenBalance} {a b : Option UInt64} (ha : Shows entry a)
    (hb : Shows entry b) : a = b := by
  rw [← entryAmount_eq_ok_iff] at ha hb
  exact Except.ok.inj (ha.symm.trans hb)

theorem Shows.amountsTo {entry : Option TokenBalance} {amount : Option UInt64}
    (h : Shows entry amount) : AmountsTo entry (amount.getD 0) :=
  ⟨amount, h, rfl⟩

theorem AmountsTo.unique {entry : Option TokenBalance} {a b : UInt64} (ha : AmountsTo entry a)
    (hb : AmountsTo entry b) : a = b := by
  obtain ⟨amount, hamount, rfl⟩ := ha
  obtain ⟨amount', hamount', rfl⟩ := hb
  rw [hamount.unique hamount']

/-- A change is read off exactly when both its entries are. -/
theorem entryChange_eq_ok_iff {index : Nat} {mint : Option Address} {pre post : Option TokenBalance}
    {change : BalanceChange} :
    entryChange index mint pre post = .ok change ↔
      ∃ before after, Shows pre before ∧ Shows post after ∧
        change = ⟨index, mint, before, after, ((post.or pre).map (·.decimals)).getD 0⟩ := by
  unfold entryChange
  constructor
  · intro h
    obtain ⟨before, hbefore, h⟩ := Outcome.bind_eq_ok.1 h
    obtain ⟨after, hafter, h⟩ := Outcome.bind_eq_ok.1 h
    exact ⟨before, after, entryAmount_eq_ok_iff.1 hbefore, entryAmount_eq_ok_iff.1 hafter,
      (Except.ok.inj h).symm⟩
  · rintro ⟨before, after, hbefore, hafter, rfl⟩
    rw [entryAmount_eq_ok_iff.2 hbefore, entryAmount_eq_ok_iff.2 hafter]
    rfl

/-- An entry that cannot be read leaves no change. -/
theorem exists_entryChange_error {index : Nat} {mint : Option Address}
    {pre post : Option TokenBalance}
    (h : (¬ ∃ before, Shows pre before) ∨ ¬ ∃ after, Shows post after) :
    ∃ e, entryChange index mint pre post = .error e := by
  cases hchange : entryChange index mint pre post with
  | error e => exact ⟨e, rfl⟩
  | ok change =>
    obtain ⟨before, after, hbefore, hafter, -⟩ := entryChange_eq_ok_iff.1 hchange
    rcases h with h | h
    · exact absurd ⟨before, hbefore⟩ h
    · exact absurd ⟨after, hafter⟩ h

def preEntry (m : TransactionMeta) (index : Nat) : Option TokenBalance :=
  firstEntry? m.preTokenBalances index

def postEntry (m : TransactionMeta) (index : Nat) : Option TokenBalance :=
  firstEntry? m.postTokenBalances index

def preEntryOf (m : TransactionMeta) (index : Nat) (mint : Address) : Option TokenBalance :=
  firstEntryOf? m.preTokenBalances index mint

def postEntryOf (m : TransactionMeta) (index : Nat) (mint : Address) : Option TokenBalance :=
  firstEntryOf? m.postTokenBalances index mint

section FirstEntry
variable {balances : List TokenBalance} {m : TransactionMeta} {index : Nat} {mint : Address}

theorem of_firstEntry_eq_some {entry : TokenBalance} (h : firstEntry? balances index = some entry) :
    entry ∈ balances ∧ entry.accountIndex.toNat = index :=
  ⟨List.mem_of_find?_eq_some h, by simpa using List.find?_some h⟩

/-- A first entry of the right mint is the first of that mint. -/
theorem firstEntryOf?_of_first {entry : TokenBalance}
    (h : firstEntry? balances index = some entry) (hmint : entry.mint = mint) :
    firstEntryOf? balances index mint = some entry := by
  obtain ⟨hindex, before, after, hsplit, hfirst⟩ := List.find?_eq_some_iff_append.1 h
  refine List.find?_eq_some_iff_append.2 ⟨?_, before, after, hsplit, fun other hother => ?_⟩
  · rw [decide_eq_true_eq] at hindex ⊢
    exact ⟨hindex, hmint⟩
  · have hne := hfirst other hother
    rw [Bool.not_eq_true', decide_eq_false_iff_not] at hne ⊢
    exact fun hboth => hne hboth.1

theorem firstEntryOf?_eq_none (h : firstEntry? balances index = none) (mint : Address) :
    firstEntryOf? balances index mint = none := by
  have hnone := List.find?_eq_none.1 h
  refine List.find?_eq_none.2 fun entry hentry hboth => hnone entry hentry ?_
  rw [decide_eq_true_eq] at hboth ⊢
  exact hboth.1

/-- Where an account holds one mint only, its first entries are those of that mint. -/
theorem firstEntryOf?_eq_first
    (h : ∀ entry ∈ balances, entry.accountIndex.toNat = index → entry.mint = mint) :
    firstEntryOf? balances index mint = firstEntry? balances index := by
  cases hfirst : firstEntry? balances index with
  | none => exact firstEntryOf?_eq_none hfirst mint
  | some entry =>
    obtain ⟨hentry, hindex⟩ := of_firstEntry_eq_some hfirst
    exact firstEntryOf?_of_first hfirst (h entry hentry hindex)

theorem tokenChange_eq (m : TransactionMeta) (index : Nat) :
    m.tokenChange index = entryChange index
      (((m.postEntry index).or (m.preEntry index)).map (·.mint)) (m.preEntry index)
      (m.postEntry index) := rfl

theorem tokenChangeOf_eq (m : TransactionMeta) (index : Nat) (mint : Address) :
    m.tokenChangeOf index mint =
      entryChange index (some mint) (m.preEntryOf index mint) (m.postEntryOf index mint) := rfl

/-- A change by mint is what the first entries of that mint show. -/
theorem shows_of_tokenChangeOf {change : BalanceChange}
    (h : m.tokenChangeOf index mint = .ok change) :
    Shows (m.preEntryOf index mint) change.before ∧
      Shows (m.postEntryOf index mint) change.after := by
  rw [tokenChangeOf_eq] at h
  obtain ⟨before, after, hbefore, hafter, rfl⟩ := entryChange_eq_ok_iff.1 h
  exact ⟨hbefore, hafter⟩

end FirstEntry

end TransactionMeta
end TradeTracker

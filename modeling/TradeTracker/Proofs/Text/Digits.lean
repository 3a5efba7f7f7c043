import Mathlib.Algebra.Order.Ring.Nat
import Mathlib.Data.List.DropRight
import TradeTracker.Text.Digits

/-! Runs of digits against the numbers they denote. A run without zeros to spare in front is what
its number is written as, and of two runs of one length each has its own number. -/
namespace TradeTracker.Text

attribute [local instance (high)] instPowNat

section Run
variable {α : Type} {p : α → Bool} {run rest : List α}

/-- A run ends where an item outside the class follows. -/
theorem takeWhile_append_of_ends (hrun : ∀ a ∈ run, p a)
    (hrest : ∀ a, rest.head? = some a → ¬ p a) : (run ++ rest).takeWhile p = run := by
  rw [List.takeWhile_append_of_pos hrun]
  cases rest with
  | nil => simp
  | cons a rest => simp [hrest a rfl]

theorem dropWhile_append_of_ends (hrun : ∀ a ∈ run, p a)
    (hrest : ∀ a, rest.head? = some a → ¬ p a) : (run ++ rest).dropWhile p = rest := by
  rw [List.dropWhile_append_of_pos hrun]
  cases rest with
  | nil => rfl
  | cons a rest => simp [hrest a rfl]

end Run

/-- No zero in front, unless it is the only digit. -/
def Reduced (cs : List Char) : Prop := ∀ ds, cs = '0' :: ds → ds = []

/-- A run without the zeros in front, though never without its last digit. -/
def dropLeadingZeros : List Char → List Char
  | '0' :: c :: cs => dropLeadingZeros (c :: cs)
  | cs => cs

section LeadingZeros
variable {cs ds : List Char}

theorem reduced_dropLeadingZeros (cs : List Char) : Reduced (dropLeadingZeros cs) := by
  fun_induction dropLeadingZeros cs with
  | case1 c cs ih => exact ih
  | case2 cs hcs =>
    rintro ds rfl
    cases ds with
    | nil => rfl
    | cons d ds => exact absurd rfl (hcs d ds)

theorem dropLeadingZeros_ne_nil (h : cs ≠ []) : dropLeadingZeros cs ≠ [] := by
  fun_induction dropLeadingZeros cs with
  | case1 c cs ih => exact ih (List.cons_ne_nil c cs)
  | case2 cs hcs => exact h

theorem dropLeadingZeros_suffix (cs : List Char) : dropLeadingZeros cs <:+ cs := by
  fun_induction dropLeadingZeros cs with
  | case1 c cs ih => exact ih.trans (List.suffix_cons '0' (c :: cs))
  | case2 cs hcs => exact List.suffix_refl cs

@[simp] theorem digitsValue_dropLeadingZeros (cs : List Char) :
    digitsValue (dropLeadingZeros cs) = digitsValue cs := by
  fun_induction dropLeadingZeros cs with
  | case1 c cs ih =>
    rw [ih]
    exact (Nat.ofDigitChars_cons : Nat.ofDigitChars 10 ('0' :: c :: cs) 0 = _).symm
  | case2 cs hcs => rfl

theorem Reduced.of_prefix (h : Reduced ds) (hinit : cs <+: ds) : Reduced cs := by
  obtain ⟨rest, rfl⟩ := hinit
  rintro tail rfl
  exact (List.append_eq_nil_iff.1 (h (tail ++ rest) rfl)).1

end LeadingZeros

private theorem toNat_of_isDigit {c : Char} (h : c.isDigit) : 48 ≤ c.toNat ∧ c.toNat ≤ 57 :=
  Char.isDigit_iff_toNat.1 h

theorem ne_point_of_isDigit {c : Char} (h : c.isDigit) : c ≠ '.' := by
  rintro rfl
  exact absurd h (by decide)

private theorem digitChar_sub {c : Char} (h : c.isDigit) : Nat.digitChar (c.toNat - 48) = c := by
  have hc := toNat_of_isDigit h
  apply Char.toNat_inj.1
  rw [Nat.toNat_digitChar_of_lt_ten (by omega)]
  omega

private theorem toDigits_append {cs : List Char} {n : Nat} (hn : 0 < n)
    (hcs : ∀ c ∈ cs, c.isDigit) :
    Nat.toDigits 10 n ++ cs = Nat.toDigits 10 (Nat.ofDigitChars 10 cs n) := by
  induction cs generalizing n with
  | nil => rw [List.append_nil, Nat.ofDigitChars_nil]
  | cons c cs ih =>
    obtain ⟨hc, hcs⟩ := List.forall_mem_cons.1 hcs
    have hrange := toNat_of_isDigit hc
    have hlt : c.toNat - 48 < 10 := by omega
    have hstep := Nat.toDigits_append_toDigits (by decide) hn hlt
    rw [Nat.toDigits_of_lt_base hlt, digitChar_sub hc] at hstep
    rw [List.append_cons, hstep, Nat.ofDigitChars_cons]
    exact ih (by omega) hcs

/-- A number is written by the one run of digits that denotes it with no zero to spare. -/
theorem toDigits_digitsValue {cs : List Char} (hne : cs ≠ []) (hcs : ∀ c ∈ cs, c.isDigit)
    (h : Reduced cs) : Nat.toDigits 10 (digitsValue cs) = cs := by
  obtain ⟨c, cs, rfl⟩ := List.exists_cons_of_ne_nil hne
  obtain ⟨hc, hcs⟩ := List.forall_mem_cons.1 hcs
  by_cases hzero : c = '0'
  · subst hzero
    rw [h cs rfl]
    rfl
  · have hrange := toNat_of_isDigit hc
    have hne : c.toNat ≠ 48 := fun heq => hzero (Char.toNat_inj.1 heq)
    have hdigits := toDigits_append (n := c.toNat - 48) (by omega) hcs
    rw [Nat.toDigits_of_lt_base (by omega), digitChar_sub hc] at hdigits
    rw [digitsValue, Nat.ofDigitChars_cons, Nat.mul_zero, Nat.zero_add]
    exact hdigits.symm

private theorem dropLeadingZeros_eq {cs : List Char} (hne : cs ≠ []) (hcs : ∀ c ∈ cs, c.isDigit) :
    dropLeadingZeros cs = Nat.toDigits 10 (digitsValue cs) := by
  have hdrop := toDigits_digitsValue (dropLeadingZeros_ne_nil hne)
    (fun c hc => hcs c ((dropLeadingZeros_suffix cs).subset hc)) (reduced_dropLeadingZeros cs)
  rw [digitsValue_dropLeadingZeros] at hdrop
  exact hdrop.symm

theorem reduced_toDigits (n : Nat) : Reduced (Nat.toDigits 10 n) := by
  have hdigits : ∀ c ∈ Nat.toDigits 10 n, c.isDigit :=
    fun c hc => Nat.isDigit_of_mem_toDigits (by decide) (by decide) hc
  have hdrop := dropLeadingZeros_eq Nat.toDigits_ne_nil hdigits
  rw [digitsValue_toDigits] at hdrop
  rw [← hdrop]
  exact reduced_dropLeadingZeros _

/-- A one in front keeps the zeros of a run, so runs of one length are told apart by their value. -/
theorem eq_of_digitsValue_eq {cs ds : List Char} (hcs : ∀ c ∈ cs, c.isDigit)
    (hds : ∀ c ∈ ds, c.isDigit) (hlength : cs.length = ds.length)
    (h : digitsValue cs = digitsValue ds) : cs = ds := by
  have hled {es : List Char} (hes : ∀ c ∈ es, c.isDigit) :
      ['1'] ++ es = Nat.toDigits 10 (10 ^ es.length * 1 + digitsValue es) := by
    rw [digitsValue, ← Nat.ofDigitChars_eq_ofDigitChars_zero]
    exact toDigits_append Nat.one_pos hes
  apply (List.append_right_inj ['1']).1
  rw [hled hcs, hled hds, hlength, h]

theorem digitsValue_lt {cs : List Char} (hcs : ∀ c ∈ cs, c.isDigit) :
    digitsValue cs < 10 ^ cs.length := by
  induction cs with
  | nil => exact Nat.one_pos
  | cons c cs ih =>
    obtain ⟨hc, hcs⟩ := List.forall_mem_cons.1 hcs
    have hrange := toNat_of_isDigit hc
    have hhead : digitsValue [c] ≤ 9 := by
      change 10 * 0 + (c.toNat - 48) ≤ 9
      omega
    calc digitsValue (c :: cs) = digitsValue [c] * 10 ^ cs.length + digitsValue cs :=
          digitsValue_append [c] cs
      _ < 9 * 10 ^ cs.length + 10 ^ cs.length :=
          Nat.add_lt_add_of_le_of_lt (Nat.mul_le_mul_right _ hhead) (ih hcs)
      _ = 10 ^ (c :: cs).length := by
          rw [List.length_cons, Nat.pow_succ]
          omega

theorem digitsValue_replicate_zero (k : Nat) : digitsValue (List.replicate k '0') = 0 := by
  rw [digitsValue, Nat.ofDigitChars_replicate_zero, Nat.mul_zero]

theorem isDigit_of_mem_zeros {c : Char} {k : Nat} (h : c ∈ List.replicate k '0') : c.isDigit := by
  rw [List.eq_of_mem_replicate h]
  rfl

theorem exists_eq_dropTrailingZeros_append (cs : List Char) :
    ∃ k, cs = dropTrailingZeros cs ++ List.replicate k '0' := by
  have hzeros : ∀ c ∈ cs.rtakeWhile (· == '0'), c = '0' := by
    intro c hc
    exact eq_of_beq (List.mem_rtakeWhile_imp (p := fun c => c == '0') hc)
  refine ⟨(cs.rtakeWhile (· == '0')).length, ?_⟩
  rw [← List.eq_replicate_of_mem hzeros]
  exact List.rdropWhile_append_rtakeWhile.symm

theorem isDigit_dropTrailingZeros_iff {cs : List Char} :
    (∀ c ∈ dropTrailingZeros cs, c.isDigit) ↔ ∀ c ∈ cs, c.isDigit := by
  obtain ⟨k, hzeros⟩ := exists_eq_dropTrailingZeros_append cs
  constructor
  · intro h c hc
    rw [hzeros] at hc
    rcases List.mem_append.1 hc with hkept | hzero
    · exact h c hkept
    · exact isDigit_of_mem_zeros hzero
  · intro h c hc
    refine h c ?_
    rw [hzeros]
    exact List.mem_append_left _ hc

theorem dropTrailingZeros_dropTrailingZeros (cs : List Char) :
    dropTrailingZeros (dropTrailingZeros cs) = dropTrailingZeros cs :=
  List.rdropWhile_idempotent (· == '0') cs

theorem dropTrailingZeros_eq_self_iff {cs : List Char} :
    dropTrailingZeros cs = cs ↔ cs.getLast? ≠ some '0' := by
  refine (List.rdropWhile_eq_self_iff (p := fun c => c == '0')).trans ?_
  rcases List.eq_nil_or_concat cs with rfl | ⟨init, last, rfl⟩
  · exact iff_of_true nofun nofun
  · simp

theorem dropTrailingZeros_append_replicate (cs : List Char) (k : Nat) :
    dropTrailingZeros (cs ++ List.replicate k '0') = dropTrailingZeros cs := by
  unfold dropTrailingZeros
  rw [List.reverse_append, List.reverse_replicate, List.dropWhile_append_of_pos]
  intro c hc
  exact beq_iff_eq.2 (List.eq_of_mem_replicate hc)

end TradeTracker.Text

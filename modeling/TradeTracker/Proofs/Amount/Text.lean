import TradeTracker.Proofs.Decimal.Reading
import TradeTracker.Proofs.Decimal.Rounding
import TradeTracker.Proofs.Text.Digits

/-! What the decimal text of an amount is made of: digits before and after its point that together
make up the amount, with no more of them behind the point than the precision holds. -/
namespace TradeTracker.Amount
open Text

attribute [local instance (high)] instPowNat

/-- Digits before and after a point that denote `n / 10 ^ decimals`. -/
structure Parts (decimals n : Nat) (whole fraction : List Char) : Prop where
  whole_ne_nil : whole ≠ []
  isDigit_whole : ∀ c ∈ whole, c.isDigit
  isDigit_fraction : ∀ c ∈ fraction, c.isDigit
  length_le : fraction.length ≤ decimals
  scaled_eq : scaled decimals whole fraction = n

/-- The parts have no zero to spare, in front of the whole or at the end of the fraction. -/
structure LowestParts (decimals n : Nat) (whole fraction : List Char) : Prop
    extends Parts decimals n whole fraction where
  reduced_whole : Reduced whole
  dropTrailingZeros_fraction : dropTrailingZeros fraction = fraction

private theorem Parts.digitsValue_mul {decimals n : Nat} {whole fraction : List Char}
    (h : Parts decimals n whole fraction) :
    digitsValue (whole ++ fraction) * 10 ^ (decimals - fraction.length) = n := by
  rw [← h.scaled_eq, scaled, digitsValue_append, Nat.add_mul, Nat.mul_assoc, ← Nat.pow_add,
    Nat.add_sub_cancel' h.length_le]

private theorem length_padded (decimals : Nat) (digits : List Char) :
    decimals < (padded decimals digits).length := by
  rw [padded, List.length_append, List.length_replicate]
  omega

private theorem digitsValue_padded (decimals : Nat) (digits : List Char) :
    digitsValue (padded decimals digits) = digitsValue digits := by
  rw [padded, digitsValue_append, digitsValue_replicate_zero, Nat.zero_mul, Nat.zero_add]

private theorem isDigit_of_mem_padded {decimals : Nat} {digits : List Char}
    (h : ∀ c ∈ digits, c.isDigit) : ∀ c ∈ padded decimals digits, c.isDigit := by
  intro c hc
  rcases List.mem_append.1 hc with hzero | hdigit
  · exact isDigit_of_mem_zeros hzero
  · exact h c hdigit

private theorem reduced_take_padded {digits : List Char} (h : Reduced digits) (decimals : Nat) :
    Reduced ((padded decimals digits).take ((padded decimals digits).length - decimals)) := by
  by_cases hshort : digits.length ≤ decimals
  · have hlength : (padded decimals digits).length = decimals + 1 := by
      rw [padded, List.length_append, List.length_replicate]
      omega
    have hone : ((padded decimals digits).take 1).length = 1 := by
      rw [List.length_take, hlength]
      omega
    rw [hlength, Nat.add_sub_cancel_left]
    intro ds hds
    rw [hds] at hone
    exact List.length_eq_zero_iff.1 (Nat.succ.inj hone)
  · have hpadded : padded decimals digits = digits := by
      rw [padded, Nat.sub_eq_zero_of_le (by omega), List.replicate_zero, List.nil_append]
    rw [hpadded]
    exact h.of_prefix (List.take_prefix _ _)

/-- A written amount is its two parts, with the point left out before an empty fraction. -/
theorem exists_lowestParts_format (raw : UInt64) (decimals : UInt8) :
    ∃ whole fraction, LowestParts decimals.toNat raw.toNat whole fraction ∧
      format raw decimals = String.ofList (joined whole fraction) := by
  let digits := padded decimals.toNat (Nat.toDigits 10 raw.toNat)
  let wholeLength := digits.length - decimals.toNat
  have hlength : decimals.toNat < digits.length := length_padded _ _
  have hdigit : ∀ c ∈ digits, c.isDigit := isDigit_of_mem_padded fun c hc =>
    Nat.isDigit_of_mem_toDigits (by decide) (by decide) hc
  have hvalue : digitsValue digits = raw.toNat :=
    (digitsValue_padded _ _).trans (digitsValue_toDigits _)
  obtain ⟨k, hzeros⟩ := exists_eq_dropTrailingZeros_append (digits.drop wholeLength)
  refine ⟨digits.take wholeLength, dropTrailingZeros (digits.drop wholeLength),
    ⟨?_, reduced_take_padded (reduced_toDigits _) _, dropTrailingZeros_dropTrailingZeros _⟩, rfl⟩
  have hwhole : (digits.take wholeLength).length = wholeLength :=
    List.length_take_of_le (Nat.sub_le _ _)
  have hplaces := congrArg List.length hzeros
  have hsplit := (List.take_append_drop wholeLength digits).symm
  rw [List.length_drop, List.length_append, List.length_replicate] at hplaces
  rw [hzeros, ← List.append_assoc] at hsplit
  generalize dropTrailingZeros (digits.drop wholeLength) = fraction at hsplit hplaces
  generalize digits.take wholeLength = whole at hsplit hwhole
  have hmem : ∀ c ∈ whole ++ fraction, c.isDigit := by
    intro c hc
    refine hdigit c ?_
    rw [hsplit]
    exact List.mem_append_left _ hc
  constructor
  · intro hnil
    rw [hnil, List.length_nil] at hwhole
    omega
  · exact fun c hc => hmem c (List.mem_append_left _ hc)
  · exact fun c hc => hmem c (List.mem_append_right _ hc)
  · omega
  · have hweight : decimals.toNat - fraction.length = k := by omega
    have hdecimals : decimals.toNat = fraction.length + k := by omega
    rw [← hvalue, hsplit, digitsValue_append, digitsValue_append, digitsValue_replicate_zero,
      List.length_replicate, scaled, hweight, hdecimals, Nat.add_mul, Nat.mul_assoc,
      ← Nat.pow_add, Nat.add_zero]

/-- Up to the 28 places a decimal has, an amount's text is read as the amount itself. -/
theorem read?_format (raw : UInt64) {decimals : UInt8} (h : decimals ≤ 28) :
    ∃ d, Decimal.read? (format raw decimals) = some d ∧
      d.toRat = (raw.toNat : ℚ) / 10 ^ decimals.toNat := by
  obtain ⟨whole, fraction, hparts, htext⟩ := exists_lowestParts_format raw decimals
  have hvalue := hparts.digitsValue_mul
  have hscale : fraction.length ≤ Decimal.maxScale :=
    hparts.length_le.trans (UInt8.le_iff_toNat_le.1 h)
  have hfit : digitsValue (whole ++ fraction) < Decimal.mantissaBound := by
    calc digitsValue (whole ++ fraction) ≤ raw.toNat := by
          rw [← hvalue]
          exact Nat.le_mul_of_pos_right _ (Nat.pow_pos (by decide))
      _ < UInt64.size := raw.toNat_lt
      _ ≤ Decimal.mantissaBound := by decide
  obtain ⟨d, hread, hmantissa, hplaces⟩ := Decimal.read_joined hparts.whole_ne_nil
    hparts.isDigit_whole hparts.isDigit_fraction hscale hfit
  refine ⟨d, ?_, ?_⟩
  · rw [Decimal.read?, htext, hread]
    rfl
  · have hpow : (10 : ℚ) ^ decimals.toNat =
        10 ^ fraction.length * 10 ^ (decimals.toNat - fraction.length) := by
      rw [← pow_add, Nat.add_sub_cancel' hparts.length_le]
    have hvalue' : (digitsValue (whole ++ fraction) : ℚ) * 10 ^ (decimals.toNat - fraction.length) =
        raw.toNat := by exact_mod_cast hvalue
    rw [Decimal.toRat_eq, hmantissa, hplaces, hpow, ← hvalue', Int.cast_natCast,
      mul_div_mul_right _ _ (by positivity)]

end TradeTracker.Amount

import TradeTracker.Proofs.Amount.Text

/-! Amounts written and read back. Both writing and reading come down to the two parts of an amount
with no zero to spare, and an amount has only one such pair at a precision. -/
namespace TradeTracker.Amount
open Text

attribute [local instance (high)] instPowNat

private theorem splitPoint_joined {whole : List Char} (fraction : List Char)
    (h : ∀ c ∈ whole, c ≠ '.') :
    splitPoint (joined whole fraction) = (whole, fraction) := by
  have hbefore : ∀ c ∈ whole, (c != '.') = true := fun c hc => bne_iff_ne.2 (h c hc)
  rw [splitPoint, joined]
  split_ifs with hempty
  · rw [List.takeWhile_eq_self_iff.2 hbefore, List.dropWhile_eq_nil_iff.2 hbefore, hempty]
    rfl
  · rw [List.takeWhile_append_of_pos hbefore, List.dropWhile_append_of_pos hbefore]
    simp

/-- A text without the zeros in front of its whole part except a last digit, without the zeros at
the end of its fraction, and without a point that nothing is left behind. -/
def canonical (text : String) : String :=
  let (whole, fraction) := splitPoint text.toList
  String.ofList (joined (dropLeadingZeros whole) (dropTrailingZeros fraction))

section Parts
variable {decimals n : Nat} {whole fraction whole' fraction' : List Char}

def filled (decimals : Nat) (fraction : List Char) : List Char :=
  fraction ++ List.replicate (decimals - fraction.length) '0'

private theorem Parts.length_filled (h : Parts decimals n whole fraction) :
    (filled decimals fraction).length = decimals := by
  rw [filled, List.length_append, List.length_replicate]
  exact Nat.add_sub_cancel' h.length_le

private theorem Parts.isDigit_filled (h : Parts decimals n whole fraction) :
    ∀ c ∈ filled decimals fraction, c.isDigit := by
  intro c hc
  rcases List.mem_append.1 hc with hfraction | hzero
  · exact h.isDigit_fraction c hfraction
  · exact isDigit_of_mem_zeros hzero

private theorem digitsValue_filled (decimals : Nat) (fraction : List Char) :
    digitsValue (filled decimals fraction) =
      digitsValue fraction * 10 ^ (decimals - fraction.length) := by
  rw [filled, digitsValue_append, digitsValue_replicate_zero, List.length_replicate, Nat.add_zero]

private theorem Parts.quotient_remainder (h : Parts decimals n whole fraction) :
    digitsValue whole = n / 10 ^ decimals ∧
      digitsValue (filled decimals fraction) = n % 10 ^ decimals := by
  have hlt : digitsValue (filled decimals fraction) < 10 ^ decimals :=
    calc digitsValue (filled decimals fraction) < 10 ^ (filled decimals fraction).length :=
          digitsValue_lt h.isDigit_filled
      _ = 10 ^ decimals := by rw [h.length_filled]
  have hvalue : digitsValue (filled decimals fraction) + 10 ^ decimals * digitsValue whole = n := by
    rw [digitsValue_filled, Nat.add_comm, Nat.mul_comm]
    exact h.scaled_eq
  obtain ⟨hquotient, hremainder⟩ :=
    (Nat.div_mod_unique (Nat.pow_pos (by decide))).2 ⟨hvalue, hlt⟩
  exact ⟨hquotient.symm, hremainder.symm⟩

/-- An amount has one pair of parts without a zero to spare. -/
theorem LowestParts.unique (h : LowestParts decimals n whole fraction)
    (h' : LowestParts decimals n whole' fraction') : whole = whole' ∧ fraction = fraction' := by
  obtain ⟨hquotient, hremainder⟩ := h.quotient_remainder
  obtain ⟨hquotient', hremainder'⟩ := h'.quotient_remainder
  constructor
  · calc whole = Nat.toDigits 10 (n / 10 ^ decimals) := by
          rw [← hquotient, toDigits_digitsValue h.whole_ne_nil h.isDigit_whole h.reduced_whole]
      _ = whole' := by
          rw [← hquotient', toDigits_digitsValue h'.whole_ne_nil h'.isDigit_whole h'.reduced_whole]
  · have hfilled : filled decimals fraction = filled decimals fraction' :=
      eq_of_digitsValue_eq h.isDigit_filled h'.isDigit_filled
        (h.length_filled.trans h'.length_filled.symm) (hremainder.trans hremainder'.symm)
    calc fraction = dropTrailingZeros (filled decimals fraction) := by
          rw [filled, dropTrailingZeros_append_replicate, h.dropTrailingZeros_fraction]
      _ = fraction' := by
          rw [hfilled, filled, dropTrailingZeros_append_replicate, h'.dropTrailingZeros_fraction]

private theorem Parts.lowest (h : Parts decimals n whole (dropTrailingZeros fraction)) :
    LowestParts decimals n (dropLeadingZeros whole) (dropTrailingZeros fraction) where
  whole_ne_nil := dropLeadingZeros_ne_nil h.whole_ne_nil
  isDigit_whole := fun c hc => h.isDigit_whole c ((dropLeadingZeros_suffix whole).subset hc)
  isDigit_fraction := h.isDigit_fraction
  length_le := h.length_le
  scaled_eq := by
    rw [scaled, digitsValue_dropLeadingZeros]
    exact h.scaled_eq
  reduced_whole := reduced_dropLeadingZeros whole
  dropTrailingZeros_fraction := dropTrailingZeros_dropTrailingZeros fraction

end Parts

variable {text text' : String} {decimals : UInt8} {raw raw' : UInt64}

private theorem parse_eq_ok_iff : parse text decimals = .ok raw ↔ decimals ≤ maxDecimals ∧
    Parts decimals.toNat raw.toNat (splitPoint text.toList).1
      (dropTrailingZeros (splitPoint text.toList).2) := by
  have hdigits (cs : List Char) : ¬ allDigits cs = false ↔ ∀ c ∈ cs, c.isDigit := by
    rw [allDigits, Bool.not_eq_false, List.all_eq_true]
  unfold parse
  dsimp only
  constructor
  · intro h
    split_ifs at h with hprecision hempty hinvalid hlong hfits
    cases h
    obtain ⟨hwhole, hinvalid⟩ := not_or.1 hinvalid
    obtain ⟨hwholeDigits, hfractionDigits⟩ := not_or.1 hinvalid
    refine ⟨UInt8.not_lt.1 hprecision, hwhole, (hdigits _).1 hwholeDigits, ?_,
      Nat.not_lt.1 hlong, (UInt64.toNat_ofNat_of_lt hfits).symm⟩
    exact isDigit_dropTrailingZeros_iff.2 ((hdigits _).1 hfractionDigits)
  · rintro ⟨hprecision, h⟩
    have hempty : text.toList ≠ [] := by
      intro hnil
      refine h.whole_ne_nil ?_
      rw [hnil]
      rfl
    have hvalid : ¬ ((splitPoint text.toList).1 = [] ∨
        allDigits (splitPoint text.toList).1 = false ∨
        allDigits (splitPoint text.toList).2 = false) := by
      refine not_or.2 ⟨h.whole_ne_nil, not_or.2 ⟨(hdigits _).2 h.isDigit_whole, ?_⟩⟩
      exact (hdigits _).2 (isDigit_dropTrailingZeros_iff.1 h.isDigit_fraction)
    rw [if_neg (UInt8.not_lt.2 hprecision), if_neg hempty, if_neg hvalid,
      if_neg (Nat.not_lt.2 h.length_le), h.scaled_eq, if_pos raw.toNat_lt, UInt64.ofNat_toNat]

private theorem parse_format (h : decimals ≤ maxDecimals) (raw : UInt64) :
    parse (format raw decimals) decimals = .ok raw := by
  obtain ⟨whole, fraction, hlowest, htext⟩ := exists_lowestParts_format raw decimals
  have hwhole : ∀ c ∈ whole, c ≠ '.' := fun c hc =>
    ne_point_of_isDigit (hlowest.isDigit_whole c hc)
  rw [parse_eq_ok_iff, htext, String.toList_ofList, splitPoint_joined fraction hwhole,
    hlowest.dropTrailingZeros_fraction]
  exact ⟨h, hlowest.toParts⟩

private theorem format_of_parse (h : parse text decimals = .ok raw) :
    format raw decimals = canonical text := by
  obtain ⟨-, hparts⟩ := parse_eq_ok_iff.1 h
  obtain ⟨whole, fraction, hlowest, htext⟩ := exists_lowestParts_format raw decimals
  obtain ⟨rfl, rfl⟩ := hlowest.unique hparts.lowest
  exact htext

/-- Texts that are read as one amount have one canonical form, and no other texts share it. -/
private theorem eq_iff_canonical_eq (h : parse text decimals = .ok raw)
    (h' : parse text' decimals = .ok raw') : raw = raw' ↔ canonical text = canonical text' := by
  rw [← format_of_parse h, ← format_of_parse h']
  constructor
  · rintro rfl
    rfl
  · intro heq
    obtain ⟨hprecision, -⟩ := parse_eq_ok_iff.1 h
    have hread := parse_format hprecision raw
    rw [heq, parse_format hprecision raw'] at hread
    exact (Except.ok.inj hread).symm

/-- Writing and reading are inverse to each other, up to the canonical form of what was read. -/
theorem format_parse_inverse (decimals : UInt8) :
    (decimals ≤ 18 → ∀ raw, parse (format raw decimals) decimals = .ok raw) ∧
      (∀ text raw, parse text decimals = .ok raw → format raw decimals = canonical text) ∧
      ∀ text text' raw raw', parse text decimals = .ok raw → parse text' decimals = .ok raw' →
        (raw = raw' ↔ canonical text = canonical text') :=
  ⟨parse_format, fun _ _ => format_of_parse, fun _ _ _ _ => eq_iff_canonical_eq⟩

theorem format_parse_inverse_padded :
    parse (format 7500000 6) 6 = .ok 7500000 ∧ parse "007.50" 6 = .ok 7500000 ∧
      parse "7.5" 6 = .ok 7500000 ∧
      canonical "007.50" = "7.5" ∧ format 7500000 6 = canonical "007.50" ∧
      ((7500000 : UInt64) = 7500000 ↔ canonical "007.50" = canonical "7.5") := by
  obtain ⟨hwritten, hread, hsame⟩ := format_parse_inverse 6
  have hpadded : parse "007.50" 6 = .ok 7500000 := by decide +kernel
  have hshort : parse "7.5" 6 = .ok 7500000 := by decide +kernel
  exact ⟨hwritten (by decide) 7500000, hpadded, hshort, by decide +kernel,
    hread _ _ hpadded, hsame _ _ _ _ hpadded hshort⟩

end TradeTracker.Amount

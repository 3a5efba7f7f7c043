import TradeTracker.Proofs.Amount.Language

/-! The one text for each number. Amounts are written without a zero to spare at every precision, so
texts of different precisions agree exactly where the numbers do. -/
namespace TradeTracker.Amount
open Text

/-- Digits with no zero to spare in front, and perhaps a point with digits behind it, the last of
which is no zero. -/
inductive Shortest : List Char → List Char → List Char → Prop
  | whole {whole : List Char} (hne : whole ≠ []) (hwhole : ∀ c ∈ whole, c.isDigit)
      (hlead : Reduced whole) : Shortest whole whole []
  | pointed {whole fraction : List Char} (hne : whole ≠ []) (hwhole : ∀ c ∈ whole, c.isDigit)
      (hlead : Reduced whole) (hfraction_ne : fraction ≠ [])
      (hfraction : ∀ c ∈ fraction, c.isDigit) (hlast : fraction.getLast? ≠ some '0') :
    Shortest (whole ++ '.' :: fraction) whole fraction

section Shortest
variable {cs cs' whole whole' fraction fraction' : List Char} {decimals n : ℕ}

private theorem Shortest.written (h : Shortest cs whole fraction) : Written cs whole fraction := by
  cases h with
  | whole hne hwhole hlead => exact .whole hne hwhole
  | pointed hne hwhole hlead hfraction_ne hfraction hlast => exact .pointed hne hwhole hfraction

private theorem Shortest.reduced_whole (h : Shortest cs whole fraction) : Reduced whole := by
  cases h with
  | whole hne hwhole hlead => exact hlead
  | pointed hne hwhole hlead hfraction_ne hfraction hlast => exact hlead

private theorem Shortest.dropTrailingZeros_fraction (h : Shortest cs whole fraction) :
    dropTrailingZeros fraction = fraction := by
  cases h with
  | whole hne hwhole hlead => rfl
  | pointed hne hwhole hlead hfraction_ne hfraction hlast =>
    exact dropTrailingZeros_eq_self_iff.2 hlast

private theorem Shortest.eq_joined (h : Shortest cs whole fraction) :
    cs = joined whole fraction := by
  cases h with
  | whole hne hwhole hlead => exact (if_pos rfl).symm
  | pointed hne hwhole hlead hfraction_ne hfraction hlast => exact (if_neg hfraction_ne).symm

private theorem LowestParts.shortest (h : LowestParts decimals n whole fraction) :
    Shortest (joined whole fraction) whole fraction := by
  unfold joined
  split_ifs with hempty
  · subst hempty
    exact .whole h.whole_ne_nil h.isDigit_whole h.reduced_whole
  · exact .pointed h.whole_ne_nil h.isDigit_whole h.reduced_whole hempty h.isDigit_fraction
      (dropTrailingZeros_eq_self_iff.1 h.dropTrailingZeros_fraction)

/-- A shortest text is made of the lowest parts of its number at every precision that has a place
for each of its digits. -/
private theorem Shortest.lowestParts (h : Shortest cs whole fraction)
    (hlength : fraction.length ≤ decimals) :
    LowestParts decimals (scaled decimals whole fraction) whole fraction where
  whole_ne_nil := h.written.whole_ne_nil
  isDigit_whole := h.written.isDigit_whole
  isDigit_fraction := h.written.isDigit_fraction
  length_le := hlength
  scaled_eq := rfl
  reduced_whole := h.reduced_whole
  dropTrailingZeros_fraction := h.dropTrailingZeros_fraction

private theorem Shortest.exactValue_eq (h : Shortest cs whole fraction)
    (h' : Shortest cs whole' fraction') :
    exactValue whole fraction = exactValue whole' fraction' := by
  have hparts := h.written.splitPoint_eq.symm.trans h'.written.splitPoint_eq
  obtain ⟨rfl, rfl⟩ := Prod.mk.inj hparts
  rfl

/-- A number has one shortest text: at a precision that has a place for every digit of two of them
both are made of the same parts. -/
private theorem Shortest.eq_of_exactValue_eq (h : Shortest cs whole fraction)
    (h' : Shortest cs' whole' fraction')
    (hvalue : exactValue whole fraction = exactValue whole' fraction') : cs = cs' := by
  let places := max fraction.length fraction'.length
  have hlength : fraction.length ≤ places := le_max_left _ _
  have hlength' : fraction'.length ≤ places := le_max_right _ _
  have hunits : scaled places whole fraction = scaled places whole' fraction' := by
    rw [← Nat.cast_inj (R := ℚ), scaled_eq_exactValue_mul whole hlength,
      scaled_eq_exactValue_mul whole' hlength', hvalue]
  have hparts := h.lowestParts hlength
  rw [hunits] at hparts
  obtain ⟨rfl, rfl⟩ := hparts.unique (h'.lowestParts hlength')
  rw [h.eq_joined, h'.eq_joined]

end Shortest

section Format
variable {raw raw' : UInt64} {decimals decimals' : UInt8}

private theorem exists_shortest_format (raw : UInt64) (decimals : UInt8) :
    ∃ whole fraction, Shortest (format raw decimals).toList whole fraction ∧
      fraction.length ≤ decimals.toNat ∧
      exactValue whole fraction = (raw.toNat : ℚ) / 10 ^ decimals.toNat := by
  obtain ⟨whole, fraction, hparts, htext⟩ := exists_lowestParts_format raw decimals
  refine ⟨whole, fraction, ?_, hparts.length_le, ?_⟩
  · rw [htext, String.toList_ofList]
    exact hparts.shortest
  · rw [eq_div_iff (by positivity), ← scaled_eq_exactValue_mul whole hparts.length_le,
      hparts.scaled_eq]

private theorem format_eq_format_iff : format raw decimals = format raw' decimals' ↔
    (raw.toNat : ℚ) / 10 ^ decimals.toNat = raw'.toNat / 10 ^ decimals'.toNat := by
  obtain ⟨whole, fraction, hshortest, -, hvalue⟩ := exists_shortest_format raw decimals
  obtain ⟨whole', fraction', hshortest', -, hvalue'⟩ := exists_shortest_format raw' decimals'
  rw [← hvalue, ← hvalue']
  constructor
  · intro htext
    rw [htext] at hshortest
    exact hshortest.exactValue_eq hshortest'
  · intro hsame
    exact String.toList_inj.1 (hshortest.eq_of_exactValue_eq hshortest' hsame)

private theorem format_injective (decimals : UInt8) :
    Function.Injective fun raw => format raw decimals := by
  intro raw raw' htext
  have hvalue := format_eq_format_iff.1 htext
  rw [div_left_inj' (by positivity), Nat.cast_inj] at hvalue
  exact UInt64.toNat_inj.1 hvalue

end Format

/-- Writing is exact and canonical at every precision: it gives the one shortest text for the
number, which has no more digits behind the point than the precision. -/
theorem format_canonical :
    (∀ (raw : UInt64) (decimals : UInt8), ∃ whole fraction,
        Shortest (format raw decimals).toList whole fraction ∧ fraction.length ≤ decimals.toNat ∧
        exactValue whole fraction = (raw.toNat : ℚ) / 10 ^ decimals.toNat) ∧
      (∀ decimals : UInt8, Function.Injective fun raw => format raw decimals) ∧
      ∀ (raw raw' : UInt64) (decimals decimals' : UInt8),
        format raw decimals = format raw' decimals' ↔
          (raw.toNat : ℚ) / 10 ^ decimals.toNat = raw'.toNat / 10 ^ decimals'.toNat :=
  ⟨exists_shortest_format, format_injective, fun _ _ _ _ => format_eq_format_iff⟩

/-- Ten of the finest units there are make one of the next, and no two counts of them look alike. -/
theorem format_canonical_finest :
    format 10 255 = format 1 254 ∧ format 10 255 ≠ format 1 255 := by
  obtain ⟨-, hinjective, hsame⟩ := format_canonical
  constructor
  · rw [hsame]
    decide +kernel
  · intro htext
    exact absurd (hinjective 255 htext) (by decide)

end TradeTracker.Amount

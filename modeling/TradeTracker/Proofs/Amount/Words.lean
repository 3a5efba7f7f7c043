import TradeTracker.Proofs.Decimal.Reading
import TradeTracker.Proofs.Outcome
import TradeTracker.Proofs.Text.Digits

/-! Reading an amount in words of 128 bits. Some steps look at their result and refuse the amount
if it is too large for a word; the others take for granted that it fits. It always does, and so the
words do not show in what is read. -/
namespace TradeTracker.Amount
open Text

attribute [local instance (high)] instPowNat

/-- A word holds the numbers below this one. -/
def wordBound : Nat := 2 ^ 128

inductive WordFault
  | refused (cause : AmountError)
  /-- A result that was taken to fit does not. -/
  | overflowed
deriving DecidableEq, Repr

/-- A step that takes for granted that its result fits. -/
def unchecked (n : Nat) : Except WordFault Nat :=
  if n < wordBound then .ok n else .error .overflowed

/-- A step that looks at its result. -/
def checked (cause : AmountError) (n : Nat) : Except WordFault Nat :=
  if n < wordBound then .ok n else .error (.refused cause)

def readInWord (cause : AmountError) : List Char → Nat → Except WordFault Nat
  | [], n => .ok n
  | c :: cs, n => do
    let shifted ← checked cause (10 * n)
    let next ← checked cause (shifted + (c.toNat - '0'.toNat))
    readInWord cause cs next

/-- The whole number of base units in `whole.fraction`, and whether it is one of 64 bits. -/
def scaledInWords (cause : AmountError) (decimals : Nat) (whole fraction : List Char) :
    Except WordFault UInt64 := do
  let scale ← unchecked (10 ^ decimals)
  let fractionScale ← unchecked (10 ^ (decimals - fraction.length))
  let wholeValue ← readInWord cause whole 0
  let fractionValue ← readInWord cause fraction 0
  let units ← checked cause (wholeValue * scale)
  let rest ← unchecked (fractionValue * fractionScale)
  let total ← checked cause (units + rest)
  if total < UInt64.size then .ok (.ofNat total) else .error (.refused cause)

/-- Reads a decimal text at a precision, as `parse` does, with all arithmetic in words. -/
def parseInWords (text : String) (decimals : UInt8) : Except WordFault UInt64 :=
  let (whole, fraction) := splitPoint text.toList
  let significant := dropTrailingZeros fraction
  if maxDecimals < decimals then .error (.refused (.unsupportedDecimals decimals))
  else if text.toList = [] then .error (.refused .empty)
  else if whole = [] ∨ allDigits whole = false ∨ allDigits fraction = false then
    .error (.refused (.invalid text))
  else if decimals.toNat < significant.length then
    .error (.refused (.tooPrecise text decimals))
  else scaledInWords (.overflow text) decimals.toNat whole significant

section Steps
variable {cause : AmountError} {n : Nat} {α : Type}

private theorem unchecked_bind (h : n < wordBound) (next : Nat → Except WordFault α) :
    (unchecked n >>= next) = next n := by
  rw [unchecked, if_pos h]
  rfl

private theorem checked_bind (h : n < wordBound) (next : Nat → Except WordFault α) :
    (checked cause n >>= next) = next n := by
  rw [checked, if_pos h]
  rfl

private theorem checked_of_le (h : wordBound ≤ n) : checked cause n = .error (.refused cause) :=
  if_neg (Nat.not_lt.2 h)

private theorem checked_bind_of_le (h : wordBound ≤ n) (next : Nat → Except WordFault α) :
    (checked cause n >>= next) = .error (.refused cause) := by
  rw [checked_of_le h]
  rfl

/-- Digits are given up as soon as those read so far are too much for a word. Then the whole run is
too, for no digit makes a number smaller. -/
private theorem readInWord_eq (cs : List Char) (hn : n < wordBound) :
    readInWord cause cs n = checked cause (Nat.ofDigitChars 10 cs n) := by
  induction cs generalizing n with
  | nil =>
    rw [Nat.ofDigitChars_nil, checked, if_pos hn]
    rfl
  | cons c cs ih =>
    have hgrow := le_ofDigitChars cs (10 * n + (c.toNat - '0'.toNat))
    rw [readInWord, Nat.ofDigitChars_cons]
    by_cases hnext : 10 * n + (c.toNat - '0'.toNat) < wordBound
    · rw [checked_bind (by omega), checked_bind hnext]
      exact ih hnext
    · have hwhole : wordBound ≤ Nat.ofDigitChars 10 cs (10 * n + (c.toNat - '0'.toNat)) := by omega
      rw [checked_of_le hwhole]
      by_cases hshifted : 10 * n < wordBound
      · rw [checked_bind hshifted, checked_bind_of_le (Nat.not_lt.1 hnext)]
      · rw [checked_bind_of_le (Nat.not_lt.1 hshifted)]

end Steps

section Amounts
variable {cause : AmountError} {decimals : Nat} {whole fraction : List Char}

private theorem pow_lt_wordBound (h : decimals ≤ maxDecimals.toNat) : 10 ^ decimals < wordBound :=
  Nat.lt_of_le_of_lt (Nat.pow_le_pow_right (by decide) h) (by decide)

private theorem fractionUnits_lt (hfraction : ∀ c ∈ fraction, c.isDigit)
    (hlength : fraction.length ≤ decimals) :
    digitsValue fraction * 10 ^ (decimals - fraction.length) < 10 ^ decimals := by
  calc digitsValue fraction * 10 ^ (decimals - fraction.length)
      < 10 ^ fraction.length * 10 ^ (decimals - fraction.length) :=
        Nat.mul_lt_mul_of_pos_right (digitsValue_lt hfraction) (Nat.pow_pos (by decide))
    _ = 10 ^ decimals := by rw [← Nat.pow_add, Nat.add_sub_cancel' hlength]

/-- In words the same amounts come out and the same are refused: what is too large for a word is
too large for 64 bits. -/
private theorem scaledInWords_eq (hdecimals : decimals ≤ maxDecimals.toNat)
    (hfraction : ∀ c ∈ fraction, c.isDigit) (hlength : fraction.length ≤ decimals) :
    scaledInWords cause decimals whole fraction =
      if scaled decimals whole fraction < UInt64.size then
        .ok (.ofNat (scaled decimals whole fraction))
      else .error (.refused cause) := by
  have hunit := pow_lt_wordBound hdecimals
  have hrest := Nat.lt_trans (fractionUnits_lt hfraction hlength) hunit
  have hvalue : digitsValue fraction < wordBound :=
    Nat.lt_of_le_of_lt (Nat.le_mul_of_pos_right _ (Nat.pow_pos (by decide))) hrest
  have hsize : UInt64.size < wordBound := by decide
  have hwhole : digitsValue whole ≤ digitsValue whole * 10 ^ decimals :=
    Nat.le_mul_of_pos_right _ (Nat.pow_pos (by decide))
  have hread (cs : List Char) : readInWord cause cs 0 = checked cause (digitsValue cs) :=
    readInWord_eq cs (by decide)
  rw [scaledInWords, unchecked_bind hunit,
    unchecked_bind (pow_lt_wordBound (Nat.le_trans (Nat.sub_le _ _) hdecimals)), hread, hread]
  unfold scaled
  by_cases hfits : digitsValue whole < wordBound
  · rw [checked_bind hfits, checked_bind hvalue]
    by_cases hunits : digitsValue whole * 10 ^ decimals < wordBound
    · rw [checked_bind hunits, unchecked_bind hrest]
      by_cases htotal : digitsValue whole * 10 ^ decimals +
          digitsValue fraction * 10 ^ (decimals - fraction.length) < wordBound
      · rw [checked_bind htotal]
      · rw [checked_bind_of_le (Nat.not_lt.1 htotal), if_neg (by omega)]
    · rw [checked_bind_of_le (Nat.not_lt.1 hunits), if_neg (by omega)]
  · rw [checked_bind_of_le (Nat.not_lt.1 hfits), if_neg (by omega)]

end Amounts

/-- Arithmetic in words reads every text as `parse` does, and none of the steps that take it for
granted overflows. -/
theorem parseInWords_eq (text : String) (decimals : UInt8) :
    parseInWords text decimals = (parse text decimals).mapError .refused := by
  unfold parseInWords parse
  dsimp only
  split_ifs with hprecision hempty hinvalid hlong hfits
  · rfl
  · rfl
  · rfl
  · rfl
  all_goals
    obtain ⟨-, hinvalid⟩ := not_or.1 hinvalid
    obtain ⟨-, hfraction⟩ := not_or.1 hinvalid
    rw [allDigits, Bool.not_eq_false, List.all_eq_true] at hfraction
    have hdecimals := UInt8.le_iff_toNat_le.1 (UInt8.not_lt.1 hprecision)
    rw [scaledInWords_eq hdecimals (isDigit_dropTrailingZeros_iff.2 hfraction)
      (Nat.not_lt.1 hlong)]
  · rw [if_pos hfits]
    rfl
  · rw [if_neg hfits]
    rfl

end TradeTracker.Amount

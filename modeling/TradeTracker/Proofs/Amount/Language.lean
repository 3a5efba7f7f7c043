import TradeTracker.Proofs.Amount.RoundTrip
import TradeTracker.Proofs.Amount.Words

/-! Which texts are amounts. The first rule that a text breaks decides its error, and a text that
breaks none is read as exactly the number it writes. -/
namespace TradeTracker.Amount
open Text

/-- Digits, at least one, and perhaps a point with any number of digits behind it. -/
inductive Written : List Char → List Char → List Char → Prop
  | whole {whole : List Char} (hne : whole ≠ []) (hwhole : ∀ c ∈ whole, c.isDigit) :
    Written whole whole []
  | pointed {whole fraction : List Char} (hne : whole ≠ []) (hwhole : ∀ c ∈ whole, c.isDigit)
      (hfraction : ∀ c ∈ fraction, c.isDigit) :
    Written (whole ++ '.' :: fraction) whole fraction

/-- The number that `whole.fraction` writes. -/
def exactValue (whole fraction : List Char) : ℚ :=
  digitsValue (whole ++ fraction) / 10 ^ fraction.length

/-- What a text is as an amount at a precision: each rule takes for granted that those before it
are kept. -/
inductive Verdict (text : String) (decimals : UInt8) : Except AmountError UInt64 → Prop
  | unsupportedDecimals (h : 18 < decimals) :
    Verdict text decimals (.error (.unsupportedDecimals decimals))
  | empty (hdecimals : decimals ≤ 18) (h : text = "") : Verdict text decimals (.error .empty)
  | invalid (hdecimals : decimals ≤ 18) (hne : text ≠ "")
      (h : ¬ ∃ whole fraction, Written text.toList whole fraction) :
    Verdict text decimals (.error (.invalid text))
  | tooPrecise {whole fraction : List Char} (hdecimals : decimals ≤ 18)
      (hwritten : Written text.toList whole fraction)
      (h : decimals.toNat < (dropTrailingZeros fraction).length) :
    Verdict text decimals (.error (.tooPrecise text decimals))
  | overflow {whole fraction : List Char} (hdecimals : decimals ≤ 18)
      (hwritten : Written text.toList whole fraction)
      (hprecise : (dropTrailingZeros fraction).length ≤ decimals.toNat)
      (h : 2 ^ 64 ≤ exactValue whole fraction * 10 ^ decimals.toNat) :
    Verdict text decimals (.error (.overflow text))
  | amount {whole fraction : List Char} {raw : UInt64} (hdecimals : decimals ≤ 18)
      (hwritten : Written text.toList whole fraction)
      (hprecise : (dropTrailingZeros fraction).length ≤ decimals.toNat)
      (h : (raw.toNat : ℚ) = exactValue whole fraction * 10 ^ decimals.toNat) :
    Verdict text decimals (.ok raw)

section Written
variable {cs whole fraction : List Char}

theorem Written.whole_ne_nil (h : Written cs whole fraction) : whole ≠ [] := by
  cases h with
  | whole hne hwhole => exact hne
  | pointed hne hwhole hfraction => exact hne

private theorem Written.ne_nil (h : Written cs whole fraction) : cs ≠ [] := by
  cases h with
  | whole hne hwhole => exact hne
  | pointed hne hwhole hfraction => exact List.append_ne_nil_of_left_ne_nil hne _

theorem Written.isDigit_whole (h : Written cs whole fraction) : ∀ c ∈ whole, c.isDigit := by
  cases h with
  | whole hne hwhole => exact hwhole
  | pointed hne hwhole hfraction => exact hwhole

theorem Written.isDigit_fraction (h : Written cs whole fraction) : ∀ c ∈ fraction, c.isDigit := by
  cases h with
  | whole hne hwhole => exact List.forall_mem_nil _
  | pointed hne hwhole hfraction => exact hfraction

/-- No digit is a point, so what is written comes apart at its first point. -/
theorem Written.splitPoint_eq (h : Written cs whole fraction) :
    splitPoint cs = (whole, fraction) := by
  have hbefore : ∀ c ∈ whole, (c != '.') = true := by
    intro c hc
    exact bne_iff_ne.2 (ne_point_of_isDigit (h.isDigit_whole c hc))
  cases h with
  | whole hne hwhole =>
    rw [splitPoint, List.takeWhile_eq_self_iff.2 hbefore, List.dropWhile_eq_nil_iff.2 hbefore]
    rfl
  | pointed hne hwhole hfraction =>
    rw [splitPoint, List.takeWhile_append_of_pos hbefore, List.dropWhile_append_of_pos hbefore]
    simp

private theorem written_splitPoint (hne : (splitPoint cs).1 ≠ [])
    (hwhole : ∀ c ∈ (splitPoint cs).1, c.isDigit)
    (hfraction : ∀ c ∈ (splitPoint cs).2, c.isDigit) :
    Written cs (splitPoint cs).1 (splitPoint cs).2 := by
  have hsplit : cs.takeWhile (· != '.') ++ cs.dropWhile (· != '.') = cs :=
    List.takeWhile_append_dropWhile
  unfold splitPoint at hne hwhole hfraction ⊢
  generalize cs.takeWhile (· != '.') = whole at hsplit hne hwhole ⊢
  generalize hrest : cs.dropWhile (· != '.') = rest at hsplit hfraction ⊢
  cases rest with
  | nil =>
    rw [List.append_nil] at hsplit
    subst hsplit
    exact .whole hne hwhole
  | cons c rest =>
    have hpoint : c = '.' := by
      have hstop := List.head?_dropWhile_not (· != '.') cs
      rw [hrest] at hstop
      simpa using hstop
    subst hsplit hpoint
    exact .pointed hne hwhole hfraction

private theorem exactValue_append_zeros (whole fraction : List Char) (k : ℕ) :
    exactValue whole (fraction ++ List.replicate k '0') = exactValue whole fraction := by
  rw [exactValue, ← List.append_assoc, digitsValue_append, digitsValue_replicate_zero,
    List.length_append, List.length_replicate, pow_add, Nat.add_zero, Nat.cast_mul, Nat.cast_pow,
    Nat.cast_ofNat, mul_div_mul_right _ _ (by positivity)]
  rfl

/-- At a precision that has a place for each digit the units make up the number written. -/
theorem scaled_eq_exactValue_mul {decimals : ℕ} (whole : List Char)
    (h : fraction.length ≤ decimals) :
    (scaled decimals whole fraction : ℚ) = exactValue whole fraction * 10 ^ decimals := by
  have hpow : (10 : ℚ) ^ decimals = 10 ^ (decimals - fraction.length) * 10 ^ fraction.length := by
    rw [← pow_add, Nat.sub_add_cancel h]
  rw [exactValue, hpow, digitsValue_append, scaled, div_mul_eq_mul_div, ← mul_assoc,
    mul_div_cancel_right₀ _ (by positivity)]
  push_cast
  rw [hpow]
  ring

private theorem scaled_dropTrailingZeros {decimals : ℕ} (whole : List Char)
    (h : (dropTrailingZeros fraction).length ≤ decimals) :
    (scaled decimals whole (dropTrailingZeros fraction) : ℚ) =
      exactValue whole fraction * 10 ^ decimals := by
  obtain ⟨k, hzeros⟩ := exists_eq_dropTrailingZeros_append fraction
  rw [scaled_eq_exactValue_mul whole h]
  nth_rewrite 2 [hzeros]
  rw [exactValue_append_zeros]

end Written

section Verdict
variable {text : String} {decimals : UInt8} {answer : Except AmountError UInt64}
  {whole fraction : List Char}

private theorem allDigits_eq_true_iff {cs : List Char} :
    allDigits cs = true ↔ ∀ c ∈ cs, c.isDigit := by
  rw [allDigits, List.all_eq_true]

private theorem exists_written_iff {cs : List Char} :
    (∃ whole fraction, Written cs whole fraction) ↔
      ¬ ((splitPoint cs).1 = [] ∨ allDigits (splitPoint cs).1 = false ∨
        allDigits (splitPoint cs).2 = false) := by
  rw [not_or, not_or, Bool.not_eq_false, Bool.not_eq_false, allDigits_eq_true_iff,
    allDigits_eq_true_iff]
  constructor
  · rintro ⟨whole, fraction, h⟩
    rw [h.splitPoint_eq]
    exact ⟨h.whole_ne_nil, h.isDigit_whole, h.isDigit_fraction⟩
  · rintro ⟨hne, hwhole, hfraction⟩
    exact ⟨_, _, written_splitPoint hne hwhole hfraction⟩

private theorem parse_of_lt (h : 18 < decimals) :
    parse text decimals = .error (.unsupportedDecimals decimals) :=
  if_pos h

private theorem parse_empty (hdecimals : decimals ≤ 18) : parse "" decimals = .error .empty := by
  have hsupported : ¬ maxDecimals < decimals := UInt8.not_lt.2 hdecimals
  unfold parse
  exact (if_neg hsupported).trans (if_pos rfl)

private theorem parse_of_not_written (hdecimals : decimals ≤ 18) (hne : text ≠ "")
    (h : ¬ ∃ whole fraction, Written text.toList whole fraction) :
    parse text decimals = .error (.invalid text) := by
  have hsupported : ¬ maxDecimals < decimals := UInt8.not_lt.2 hdecimals
  rw [exists_written_iff, not_not] at h
  unfold parse
  dsimp only
  rw [if_neg hsupported, if_neg (mt String.toList_eq_nil_iff.1 hne), if_pos h]

/-- Of a number that is written as it should be only the size is left to be looked at. -/
private theorem parse_of_written (hdecimals : decimals ≤ 18)
    (h : Written text.toList whole fraction) :
    parse text decimals =
      if decimals.toNat < (dropTrailingZeros fraction).length then
        .error (.tooPrecise text decimals)
      else if scaled decimals.toNat whole (dropTrailingZeros fraction) < UInt64.size then
        .ok (.ofNat (scaled decimals.toNat whole (dropTrailingZeros fraction)))
      else .error (.overflow text) := by
  have hsupported : ¬ maxDecimals < decimals := UInt8.not_lt.2 hdecimals
  have hrules := exists_written_iff.1 ⟨whole, fraction, h⟩
  unfold parse
  dsimp only
  rw [if_neg hsupported, if_neg h.ne_nil, if_neg hrules, h.splitPoint_eq]

private theorem scaled_lt_size_iff (h : (dropTrailingZeros fraction).length ≤ decimals.toNat) :
    scaled decimals.toNat whole (dropTrailingZeros fraction) < UInt64.size ↔
      exactValue whole fraction * 10 ^ decimals.toNat < 2 ^ 64 := by
  have hsize : (2 : ℚ) ^ 64 = (UInt64.size : ℕ) := by norm_num [UInt64.size]
  rw [← scaled_dropTrailingZeros whole h, hsize, Nat.cast_lt]

private theorem verdict_parse (text : String) (decimals : UInt8) :
    Verdict text decimals (parse text decimals) := by
  by_cases hmany : 18 < decimals
  · rw [parse_of_lt hmany]
    exact .unsupportedDecimals hmany
  have hdecimals : decimals ≤ 18 := UInt8.not_lt.1 hmany
  by_cases hempty : text = ""
  · rw [hempty, parse_empty hdecimals]
    exact .empty hdecimals rfl
  by_cases hwritten : ∃ whole fraction, Written text.toList whole fraction
  · obtain ⟨whole, fraction, hwritten⟩ := hwritten
    rw [parse_of_written hdecimals hwritten]
    split_ifs with hlong hfits
    · exact .tooPrecise hdecimals hwritten hlong
    · refine .amount hdecimals hwritten (Nat.not_lt.1 hlong) ?_
      rw [UInt64.toNat_ofNat_of_lt' hfits]
      exact scaled_dropTrailingZeros whole (Nat.not_lt.1 hlong)
    · rw [scaled_lt_size_iff (Nat.not_lt.1 hlong), not_lt] at hfits
      exact .overflow hdecimals hwritten (Nat.not_lt.1 hlong) hfits
  · rw [parse_of_not_written hdecimals hempty hwritten]
    exact .invalid hdecimals hempty hwritten

private theorem Verdict.parse_eq (h : Verdict text decimals answer) :
    parse text decimals = answer := by
  cases h with
  | unsupportedDecimals h => exact parse_of_lt h
  | empty hdecimals h => rw [h, parse_empty hdecimals]
  | invalid hdecimals hne h => exact parse_of_not_written hdecimals hne h
  | tooPrecise hdecimals hwritten h => rw [parse_of_written hdecimals hwritten, if_pos h]
  | overflow hdecimals hwritten hprecise h =>
    rw [← not_lt, ← scaled_lt_size_iff hprecise] at h
    rw [parse_of_written hdecimals hwritten, if_neg (Nat.not_lt.2 hprecise), if_neg h]
  | @amount whole fraction raw hdecimals hwritten hprecise h =>
    rw [← scaled_dropTrailingZeros whole hprecise, Nat.cast_inj] at h
    rw [parse_of_written hdecimals hwritten, if_neg (Nat.not_lt.2 hprecise), ← h,
      if_pos raw.toNat_lt, UInt64.ofNat_toNat]

private theorem parse_eq_iff : parse text decimals = answer ↔ Verdict text decimals answer := by
  constructor
  · rintro rfl
    exact verdict_parse text decimals
  · exact Verdict.parse_eq

private theorem parseRaw_eq_parse (h : '.' ∉ text.toList) : parseRaw text = parse text 0 := by
  have hsplit : splitPoint text.toList = (text.toList, []) := by
    have hbefore : ∀ c ∈ text.toList, (c != '.') = true := by
      intro c hc
      rw [bne_iff_ne]
      rintro rfl
      exact h hc
    rw [splitPoint, List.takeWhile_eq_self_iff.2 hbefore, List.dropWhile_eq_nil_iff.2 hbefore]
    rfl
  have hscaled : scaled 0 text.toList [] = digitsValue text.toList := by simp [scaled, digitsValue]
  by_cases hempty : text = ""
  · rw [hempty, parse_empty (by decide)]
    rfl
  have hne : text.toList ≠ [] := mt String.toList_eq_nil_iff.1 hempty
  by_cases hdigits : ∀ c ∈ text.toList, c.isDigit
  · have hread : parse text 0 = _ := parse_of_written (by decide) (.whole hne hdigits)
    have hzeros : dropTrailingZeros [] = [] := rfl
    rw [hzeros, UInt8.toNat_zero, hscaled, List.length_nil, if_neg (Nat.lt_irrefl 0)] at hread
    rw [hread, parseRaw, if_neg hne, if_neg (by simp [allDigits_eq_true_iff.2 hdigits])]
  · have hwritten : ¬ ∃ whole fraction, Written text.toList whole fraction := by
      rintro ⟨whole, fraction, hwritten⟩
      have hparts := hsplit.symm.trans hwritten.splitPoint_eq
      rw [Prod.mk.injEq] at hparts
      exact hdigits (hparts.1 ▸ hwritten.isDigit_whole)
    rw [← allDigits_eq_true_iff, Bool.not_eq_true] at hdigits
    rw [parse_of_not_written (by decide) hempty hwritten, parseRaw, if_neg hne, if_pos hdigits]

private theorem parseRaw_of_point (h : '.' ∈ text.toList) :
    parseRaw text = .error (.invalid text) := by
  have hempty : text.toList ≠ [] := List.ne_nil_of_mem h
  have hdigits : allDigits text.toList = false := by
    rw [← Bool.not_eq_true, allDigits_eq_true_iff]
    intro hall
    exact ne_point_of_isDigit (hall '.' h) rfl
  rw [parseRaw, if_neg hempty, if_pos hdigits]

end Verdict

/-- Reading decides the language of amounts at every precision and gives the exact value, in words
of 128 bits as well. Counts of base units are the amounts of precision 0 without a point. -/
theorem parse_decides (text : String) (decimals : UInt8) :
    (∀ answer, parse text decimals = answer ↔ Verdict text decimals answer) ∧
      parseInWords text decimals = (parse text decimals).mapError .refused ∧
      ('.' ∉ text.toList → parseRaw text = parse text 0) ∧
      ('.' ∈ text.toList → parseRaw text = .error (.invalid text)) :=
  ⟨fun _ => parse_eq_iff, parseInWords_eq text decimals, parseRaw_eq_parse, parseRaw_of_point⟩

def beyondWords : String := "000340282366920938463463374607431768211456"

/-- Its reading is given up in the middle of a word, and a point alone tells the two readings of a
count apart. -/
theorem parse_decides_beyondWords :
    Verdict beyondWords 0 (.error (.overflow beyondWords)) ∧
      parseInWords beyondWords 0 = .error (.refused (.overflow beyondWords)) ∧
      '.' ∉ beyondWords.toList ∧ parseRaw beyondWords = .error (.overflow beyondWords) ∧
      Verdict "7." 0 (.ok 7) ∧ '.' ∈ "7.".toList ∧ parseRaw "7." = .error (.invalid "7.") := by
  obtain ⟨hverdict, hwords, hwhole, -⟩ := parse_decides beyondWords 0
  obtain ⟨hverdict', -, -, hpoint⟩ := parse_decides "7." 0
  have hlarge : parse beyondWords 0 = .error (.overflow beyondWords) := by decide +kernel
  have hnone : '.' ∉ beyondWords.toList := by decide +kernel
  have hsome : '.' ∈ "7.".toList := by decide +kernel
  refine ⟨(hverdict _).1 hlarge, ?_, hnone, (hwhole hnone).trans hlarge, ?_, hsome, hpoint hsome⟩
  · rw [hwords, hlarge]
    rfl
  · exact (hverdict' _).1 (by decide +kernel)

end TradeTracker.Amount

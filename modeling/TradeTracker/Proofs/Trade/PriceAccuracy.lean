import TradeTracker.Proofs.Trade.Price

/-! The price that two arbitrary texts imply. Every ratio inside the band has one, and what is
written is off by half a thousandth, and by no more than the last place of the quotient beyond
that. -/
namespace TradeTracker.Price

section Quotient
variable {counter target quotient : Decimal}

/-- The ends of the band are whole numbers, and no rounding passes one. -/
private theorem exists_ratio? (hcounter : 0 < counter.toRat) (htarget : 0 < target.toRat)
    (hlow : 1 ≤ counter.toRat / target.toRat) (hhigh : counter.toRat / target.toRat ≤ 10000) :
    ∃ quotient, ratio? counter target = some quotient := by
  have hnonneg : 0 ≤ counter.toRat / target.toRat := zero_le_one.trans hlow
  have hroom : (10000 : ℚ) ≤ (Decimal.mantissaBound - 1 : ℕ) := by
    norm_num [Decimal.mantissaBound]
  obtain ⟨quotient, hround⟩ := Decimal.exists_round? hnonneg (hhigh.trans hroom)
  refine ⟨quotient, ratio?_eq_some_iff.2 ⟨hcounter, htarget, hround, ?_, ?_⟩⟩
  · have hone : ((1 : ℕ) : ℚ) / 10 ^ 0 ≤ quotient.toRat :=
      Decimal.le_toRat_of_round? hround (Nat.zero_le _) (by simpa using hlow)
    simpa using hone
  · have hmost : quotient.toRat ≤ ((10000 : ℕ) : ℚ) / 10 ^ 0 :=
      Decimal.toRat_le_of_round? hnonneg hround (Nat.zero_le _) (by simpa using hhigh)
    simpa using hmost

/-- A quotient inside the band keeps all but four of the places a decimal can have. -/
private theorem le_scale_of_ratio? (h : ratio? counter target = some quotient) :
    24 ≤ quotient.scale := by
  obtain ⟨hcounter, htarget, hround, -, hhigh⟩ := ratio?_eq_some_iff.1 h
  have hpos := div_pos hcounter htarget
  generalize counter.toRat / target.toRat = q at hround hpos
  have herror := (abs_le.1 (Decimal.round?_error hround)).1
  have hsmall : q ≤ 7 * 10 ^ 4 := by
    rw [abs_of_pos hpos] at herror
    rcases le_total (1 / 2) q with hlarge | hless
    · rw [max_eq_right hlarge] at herror
      linarith
    · linarith
  have hscale := Decimal.maxScale_le_of_round? hpos.le hround hsmall
  rw [Decimal.maxScale] at hscale
  omega

private theorem ratio?_error (h : ratio? counter target = some quotient) :
    |quotient.toRat - counter.toRat / target.toRat| ≤ 1 / 10 ^ 24 := by
  obtain ⟨hcounter, htarget, hround, -⟩ := ratio?_eq_some_iff.1 h
  have hpow : (10 : ℚ) ^ 24 ≤ 10 ^ quotient.scale :=
    pow_le_pow_right₀ (by norm_num) (le_scale_of_ratio? h)
  refine (Decimal.place_error (div_pos hcounter htarget).le hround).trans ?_
  exact div_le_div₀ (by norm_num) (by norm_num) (by positivity) hpow

end Quotient

private theorem thousandths_error {q : ℚ} (hq : 0 ≤ q) :
    |(⌊1000 * q + 1 / 2⌋₊ : ℚ) / 1000 - q| ≤ 5 / 10 ^ 4 := by
  obtain ⟨hlow, hhigh⟩ := (Nat.floor_eq_iff (show 0 ≤ 1000 * q + 1 / 2 by linarith)).1 rfl
  rw [abs_le]
  constructor <;> linarith

private theorem read?_written {n : ℕ} (h : 1000 ≤ n) (hfit : n < Decimal.mantissaBound) :
    ∃ d, Decimal.read? (written n) = some d ∧ d.toRat = n / 1000 ∧ d.scale = places := by
  have hdigits := toDigits_eq_append_thousandths h
  have hdigit : ∀ c ∈ Nat.toDigits 10 n, c.isDigit :=
    fun c hc => Nat.isDigit_of_mem_toDigits (by decide) (by decide) hc
  have hvalue : Text.digitsValue (Nat.toDigits 10 n) = n := Text.digitsValue_toDigits n
  rw [hdigits] at hdigit hvalue
  obtain ⟨d, hread, hmantissa, hscale⟩ := Decimal.read_joined Nat.toDigits_ne_nil
    (fun c hc => hdigit c (List.mem_append_left _ hc))
    (fun c hc => hdigit c (List.mem_append_right _ hc)) (show 3 ≤ Decimal.maxScale by decide)
    (hvalue.symm ▸ hfit)
  refine ⟨d, ?_, ?_, hscale⟩
  · change (Decimal.read (written n)).toOption = some d
    exact congrArg Except.toOption hread
  · rw [Decimal.toRat_eq, hmantissa, hscale, hvalue]
    norm_num

/-- Texts that are read as positive numbers with a ratio inside the band imply a price. A price that
texts imply is written with exactly three places, is inside the band, and differs from the exact
ratio of the two positive numbers they are read as by half a thousandth and one place of the
quotient at most. -/
theorem implied?_accurate (counterAmount targetAmount : String) :
    (∀ counter target : Decimal, Decimal.read? counterAmount = some counter →
        Decimal.read? targetAmount = some target → 0 < counter.toRat → 0 < target.toRat →
        1 ≤ counter.toRat / target.toRat → counter.toRat / target.toRat ≤ 10000 →
        ∃ price, implied? counterAmount targetAmount = some price) ∧
      ∀ price, implied? counterAmount targetAmount = some price →
        ∃ counter target value : Decimal, Decimal.read? counterAmount = some counter ∧
          Decimal.read? targetAmount = some target ∧ 0 < counter.toRat ∧ 0 < target.toRat ∧
          (∃ n, price = written n) ∧ Decimal.read? price = some value ∧ value.scale = places ∧
          1 ≤ value.toRat ∧ value.toRat ≤ 10000 ∧
          |value.toRat - counter.toRat / target.toRat| ≤ 5 / 10 ^ 4 + 1 / 10 ^ 24 := by
  constructor
  · intro counter target hcounter htarget hpos hpos' hlow hhigh
    obtain ⟨quotient, hratio⟩ := exists_ratio? hpos hpos' hlow hhigh
    exact ⟨_, implied?_eq_some_iff.2 ⟨counter, target, quotient, hcounter, htarget, hratio, rfl⟩⟩
  · intro price h
    obtain ⟨counter, target, quotient, hcounter, htarget, hratio, rfl⟩ := implied?_eq_some_iff.1 h
    obtain ⟨hpos, hpos', -, hlow, hhigh⟩ := ratio?_eq_some_iff.1 hratio
    have hscale : places < quotient.scale :=
      lt_of_lt_of_le (by decide) (le_scale_of_ratio? hratio)
    have hwritten := text_shortened hlow hscale
    obtain ⟨hleast, hmost⟩ := thousandths_band hlow hhigh
    have hthousandths := thousandths_error (zero_le_one.trans hlow)
    generalize ⌊1000 * quotient.toRat + 1 / 2⌋₊ = n at hwritten hleast hmost hthousandths
    obtain ⟨value, hread, hvalue, hplaces⟩ :=
      read?_written hleast (hmost.trans_lt (by decide))
    have hquotient := ratio?_error hratio
    rw [hwritten]
    refine ⟨counter, target, value, hcounter, htarget, hpos, hpos', ⟨n, rfl⟩, hread, hplaces, ?_⟩
    have hleast : (1000 : ℚ) ≤ n := by exact_mod_cast hleast
    have hmost : (n : ℚ) ≤ 10000000 := by exact_mod_cast hmost
    rw [hvalue]
    refine ⟨by linarith, by linarith, ?_⟩
    rw [abs_le] at hquotient hthousandths ⊢
    constructor <;> linarith

/-- A target that is read as one is met by the upper end of the band, and the lower end takes in a
ratio below one that its quotient is rounded up from. -/
theorem implied?_accurate_edges :
    (Decimal.read? "1e4" = some ⟨10000, 0, by decide, by decide⟩ ∧
      Decimal.read? "0.99999999999999999999999999995" =
        some ⟨10000000000000000000000000000, 28, by decide, by decide⟩ ∧
      ∃ price, implied? "1e4" "0.99999999999999999999999999995" = some price) ∧
      implied? "79228162514264337593543950334" "79_228162514264337593543950335" = some "1.000" ∧
      ∃ counter target value : Decimal,
        Decimal.read? "79228162514264337593543950334" = some counter ∧
        Decimal.read? "79_228162514264337593543950335" = some target ∧
        Decimal.read? "1.000" = some value ∧
        |value.toRat - counter.toRat / target.toRat| ≤ 5 / 10 ^ 4 + 1 / 10 ^ 24 := by
  have hcounter : Decimal.read? "1e4" = some ⟨10000, 0, by decide, by decide⟩ := by decide +kernel
  have htarget : Decimal.read? "0.99999999999999999999999999995" =
      some ⟨10000000000000000000000000000, 28, by decide, by decide⟩ := by decide +kernel
  have hprice : implied? "79228162514264337593543950334" "79_228162514264337593543950335" =
      some "1.000" := by decide +kernel
  refine ⟨⟨hcounter, htarget, ?_⟩, hprice, ?_⟩
  · exact (implied?_accurate _ _).1 _ _ hcounter htarget (by decide +kernel) (by decide +kernel)
      (by decide +kernel) (by decide +kernel)
  · obtain ⟨counter, target, value, hread, hread', -, -, -, hvalue, -, -, -, herror⟩ :=
      (implied?_accurate _ _).2 _ hprice
    exact ⟨counter, target, value, hread, hread', hvalue, herror⟩

end TradeTracker.Price

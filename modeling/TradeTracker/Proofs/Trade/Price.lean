import TradeTracker.Proofs.Amount.Text
import TradeTracker.Proofs.Decimal.Shortening
import TradeTracker.Trade.Classification

/-! The price a trade implies is the exact ratio of its two amounts, rounded once. The quotient in
between is rounded too, but for amounts of 64 bits it stays on the same side of both ends of the
band and of every number halfway between two prices. -/
namespace TradeTracker

private theorem Text.pointed_append {whole fraction : List Char} (hwhole : whole ≠ [])
    (hfraction : fraction ≠ []) :
    pointed fraction.length (whole ++ fraction) = whole ++ '.' :: fraction := by
  have hlength : 0 < whole.length := List.length_pos_of_ne_nil hwhole
  have hpadding : fraction.length + 1 - (whole ++ fraction).length = 0 := by
    rw [List.length_append]
    omega
  have hplaces : fraction.length ≠ 0 := (List.length_pos_of_ne_nil hfraction).ne'
  have hsplit : (whole ++ fraction).length - fraction.length = whole.length := by
    rw [List.length_append, Nat.add_sub_cancel]
  simp only [pointed, hpadding, List.replicate_zero, List.nil_append, if_neg hplaces, hsplit,
    List.take_left, List.drop_left]

namespace Price

def written (n : ℕ) : String :=
  String.ofList (Nat.toDigits 10 (n / 1000) ++
    ['.', Nat.digitChar (n / 100 % 10), Nat.digitChar (n / 10 % 10), Nat.digitChar (n % 10)])

/-- What one unit of the target costs, exactly. -/
def exactRatio (counter : UInt64) (counterDecimals : UInt8) (target : UInt64)
    (targetDecimals : UInt8) : ℚ :=
  (counter.toNat : ℚ) / 10 ^ counterDecimals.toNat /
    ((target.toNat : ℚ) / 10 ^ targetDecimals.toNat)

theorem ratio?_eq_some_iff {counter target price : Decimal} :
    ratio? counter target = some price ↔
      0 < counter.toRat ∧ 0 < target.toRat ∧
        Decimal.round? (counter.toRat / target.toRat) = some price ∧
        1 ≤ price.toRat ∧ price.toRat ≤ 10000 := by
  have hhighest : highest.toRat = 10000 := Decimal.toRat_ofWhole 10000
  have hlowest : lowest.toRat = 1 := Decimal.toRat_one
  simp only [ratio?, Decimal.isPositive_iff]
  split_ifs with hpos
  · rw [Option.filter_eq_some_iff, decide_eq_true_iff, Decimal.le_iff, Decimal.le_iff, hlowest,
      hhighest, Decimal.div?_eq _ hpos.2.ne']
    tauto
  · simp only [false_iff]
    tauto

theorem implied?_eq_some_iff {counterAmount targetAmount price : String} :
    implied? counterAmount targetAmount = some price ↔
      ∃ counter target quotient, Decimal.read? counterAmount = some counter ∧
        Decimal.read? targetAmount = some target ∧ ratio? counter target = some quotient ∧
        price = (shortened quotient).text := by
  simp only [implied?, Option.bind_eq_bind, Option.bind_eq_some_iff, Option.some.injEq]
  constructor
  · rintro ⟨counter, hcounter, target, htarget, quotient, hquotient, rfl⟩
    exact ⟨counter, target, quotient, hcounter, htarget, hquotient, rfl⟩
  · rintro ⟨counter, target, quotient, hcounter, htarget, hquotient, rfl⟩
    exact ⟨counter, hcounter, target, htarget, quotient, hquotient, rfl⟩

/-- The last three digits of a number stand behind those of its thousands. -/
theorem toDigits_eq_append_thousandths {n : ℕ} (h : 1000 ≤ n) :
    Nat.toDigits 10 n = Nat.toDigits 10 (n / 1000) ++
      [Nat.digitChar (n / 100 % 10), Nat.digitChar (n / 10 % 10), Nat.digitChar (n % 10)] := by
  have hhundreds : n / 100 = n / 10 / 10 := by omega
  have hthousands : n / 1000 = n / 10 / 10 / 10 := by omega
  rw [hhundreds, hthousands, Nat.toDigits_of_base_le (by decide) (show 10 ≤ n by omega),
    Nat.toDigits_of_base_le (by decide) (show 10 ≤ n / 10 by omega),
    Nat.toDigits_of_base_le (by decide) (show 10 ≤ n / 10 / 10 by omega)]
  simp only [List.append_assoc, List.cons_append, List.nil_append]

private theorem ofList_pointed_eq_written {n : ℕ} (h : 1000 ≤ n) :
    String.ofList (Text.pointed places (Nat.toDigits 10 n)) = written n := by
  have hpointed := Text.pointed_append (Nat.toDigits_ne_nil (n := n / 1000) (b := 10))
    (List.cons_ne_nil (Nat.digitChar (n / 100 % 10))
      [Nat.digitChar (n / 10 % 10), Nat.digitChar (n % 10)])
  rw [← toDigits_eq_append_thousandths h] at hpointed
  rw [written, ← hpointed]
  rfl

/-- A number inside the band has between a thousand and ten million thousandths. -/
theorem thousandths_band {q : ℚ} (hq : 1 ≤ q) (hq' : q ≤ 10000) :
    1000 ≤ ⌊1000 * q + 1 / 2⌋₊ ∧ ⌊1000 * q + 1 / 2⌋₊ ≤ 10000000 := by
  constructor
  · rw [Nat.le_floor_iff (by linarith)]
    push_cast
    linarith
  · rw [← Nat.lt_succ_iff, Nat.floor_lt (by linarith)]
    push_cast
    linarith

theorem text_shortened {price : Decimal} (hprice : 1 ≤ price.toRat)
    (hscale : places < price.scale) :
    (shortened price).text = written ⌊1000 * price.toRat + 1 / 2⌋₊ := by
  have hnonneg := Decimal.mantissa_nonneg (zero_le_one.trans hprice)
  obtain ⟨hmantissa, hplaces⟩ := Decimal.roundAway_of_nonneg hnonneg hscale
  have hthousand : price.toRat * 10 ^ places = 1000 * price.toRat := by
    rw [places]
    ring
  have hshortened : shortened price = price.roundAway places := by
    rw [shortened, Decimal.extend, if_neg (Nat.lt_irrefl _ <| hplaces ▸ ·)]
  rw [hthousand] at hmantissa
  generalize hn : ⌊1000 * price.toRat + 1 / 2⌋₊ = n at hmantissa
  have hlarge : 1000 ≤ n := by
    rw [← hn, Nat.le_floor_iff (by linarith)]
    push_cast
    linarith
  rw [hshortened, ← ofList_pointed_eq_written hlarge, Decimal.text, hmantissa, hplaces]
  rfl

/-- Two numbers on the same side of everything halfway between two prices round to one price. -/
private theorem floor_eq_of_compare {p q : ℚ} (hq : 1 ≤ q) (hq' : q ≤ 10000)
    (h : ∀ n : ℕ, 5000 < n → n ≤ 2 * 10 ^ 8 →
      compare p (n / 10 ^ 4) = compare q (n / 10 ^ 4)) :
    ⌊1000 * p + 1 / 2⌋₊ = ⌊1000 * q + 1 / 2⌋₊ := by
  obtain ⟨hlow, hhigh⟩ := (Nat.floor_eq_iff (show 0 ≤ 1000 * q + 1 / 2 by linarith)).1 rfl
  obtain ⟨hleast, hmost⟩ := thousandths_band hq hq'
  generalize ⌊1000 * q + 1 / 2⌋₊ = price at hlow hhigh hleast hmost ⊢
  have hbelow := h (10 * price - 5) (by omega) (by omega)
  have habove := h (10 * price + 5) (by omega) (by omega)
  rw [Nat.cast_sub (by omega)] at hbelow
  push_cast at hbelow habove
  have hlow' : (10 * (price : ℚ) - 5) / 10 ^ 4 ≤ p := by
    have hle : (10 * (price : ℚ) - 5) / 10 ^ 4 ≤ q := by linarith
    rw [← compare_ge_iff_ge] at hle ⊢
    rwa [hbelow]
  have hhigh' : p < (10 * (price : ℚ) + 5) / 10 ^ 4 := by
    have hlt : q < (10 * (price : ℚ) + 5) / 10 ^ 4 := by linarith
    rw [← compare_lt_iff_lt] at hlt ⊢
    rwa [habove]
  have hprice : (1000 : ℚ) ≤ price := by exact_mod_cast hleast
  refine (Nat.floor_eq_iff ?_).2 ⟨?_, ?_⟩ <;> linarith

section Amounts
variable {counter target : UInt64} {counterDecimals targetDecimals : UInt8}

/-- From one half on, the ratio of two amounts of 64 bits is a fraction with a denominator of at
most 65 bits: the target amount itself, or no more than twice the counter amount. -/
private theorem exists_fraction (htarget : 0 < target)
    (h : 1 / 2 ≤ exactRatio counter counterDecimals target targetDecimals) :
    ∃ a b : ℕ, 0 < b ∧ b ≤ 2 ^ 65 ∧
      exactRatio counter counterDecimals target targetDecimals = (a : ℚ) / b := by
  have hpos : 0 < target.toNat := UInt64.lt_iff_toNat_lt.1 htarget
  have hT : (0 : ℚ) < target.toNat := by exact_mod_cast hpos
  rw [exactRatio] at h ⊢
  rcases le_total counterDecimals.toNat targetDecimals.toNat with hle | hle
  · obtain ⟨k, hk⟩ := Nat.exists_eq_add_of_le hle
    refine ⟨counter.toNat * 10 ^ k, target.toNat, hpos, ?_, ?_⟩
    · exact target.toNat_lt.le.trans (by decide)
    · rw [hk, pow_add]
      push_cast
      field_simp
  · obtain ⟨k, hk⟩ := Nat.exists_eq_add_of_le hle
    have hratio : (counter.toNat : ℚ) / 10 ^ counterDecimals.toNat /
        (target.toNat / 10 ^ targetDecimals.toNat) =
        counter.toNat / ((target.toNat * 10 ^ k : ℕ) : ℚ) := by
      rw [hk, pow_add]
      push_cast
      field_simp
    rw [hratio] at h ⊢
    refine ⟨counter.toNat, target.toNat * 10 ^ k, by positivity, ?_, rfl⟩
    rw [div_le_div_iff₀ (by positivity) (by positivity)] at h
    have htwice : target.toNat * 10 ^ k ≤ counter.toNat * 2 := by
      rw [one_mul] at h
      exact_mod_cast h
    have := counter.toNat_lt
    omega

/-- The rounded ratio of two amounts is on the same side as the exact one of every number of four
places above one half. -/
private theorem compare_of_exactRatio {d : Decimal} {n : ℕ} (htarget : 0 < target) (hn : 5000 < n)
    (hn' : n ≤ 2 * 10 ^ 8)
    (h : Decimal.round? (exactRatio counter counterDecimals target targetDecimals) = some d) :
    compare d.toRat (n / 10 ^ 4) =
      compare (exactRatio counter counterDecimals target targetDecimals) (n / 10 ^ 4) := by
  rcases le_or_gt (1 / 2) (exactRatio counter counterDecimals target targetDecimals) with hge | hlt
  · obtain ⟨a, b, hb, hb', hfraction⟩ := exists_fraction htarget hge
    rw [hfraction] at h ⊢
    exact Decimal.compare_of_round? hb hb' hn' h
  · have hq : 0 ≤ exactRatio counter counterDecimals target targetDecimals := by
      unfold exactRatio
      positivity
    generalize exactRatio counter counterDecimals target targetDecimals = q at *
    have hscale := Decimal.le_scale_of_round? (e := 0) hq h (by linarith)
    have hhalf : d.toRat ≤ ((5 : ℕ) : ℚ) / 10 ^ 1 :=
      Decimal.toRat_le_of_round? hq h (by rw [Decimal.maxScale] at hscale; omega)
        (by norm_num; linarith)
    have habove : (1 : ℚ) / 2 < n / 10 ^ 4 := by
      rw [div_lt_div_iff₀ (by positivity) (by positivity)]
      have : (5000 : ℚ) < n := by exact_mod_cast hn
      linarith
    have hdown : d.toRat < n / 10 ^ 4 := by
      norm_num at hhalf
      linarith
    have hbelow : q < n / 10 ^ 4 := by linarith
    rw [compare_lt_iff_lt.2 hdown, compare_lt_iff_lt.2 hbelow]

private theorem band_iff_of_exactRatio {d : Decimal} (htarget : 0 < target)
    (h : Decimal.round? (exactRatio counter counterDecimals target targetDecimals) = some d) :
    (1 ≤ d.toRat ∧ d.toRat ≤ 10000) ↔
      1 ≤ exactRatio counter counterDecimals target targetDecimals ∧
        exactRatio counter counterDecimals target targetDecimals ≤ 10000 := by
  have hlow := compare_of_exactRatio (n := 10 ^ 4) htarget (by decide) (by decide) h
  have hhigh := compare_of_exactRatio (n := 10 ^ 8) htarget (by decide) (by decide) h
  norm_num at hlow hhigh
  rw [← compare_ge_iff_ge, ← compare_le_iff_le, hlow, hhigh, compare_ge_iff_ge, compare_le_iff_le]

private theorem implied?_format_eq_some_iff {price : String} (hcounter : counterDecimals ≤ 28)
    (htarget : targetDecimals ≤ 28) :
    implied? (Amount.format counter counterDecimals) (Amount.format target targetDecimals) =
        some price ↔
      0 < counter ∧ 0 < target ∧
        1 ≤ exactRatio counter counterDecimals target targetDecimals ∧
        exactRatio counter counterDecimals target targetDecimals ≤ 10000 ∧
        price =
          written ⌊1000 * exactRatio counter counterDecimals target targetDecimals + 1 / 2⌋₊ := by
  obtain ⟨c, hc, hcvalue⟩ := Amount.read?_format counter hcounter
  obtain ⟨t, ht, htvalue⟩ := Amount.read?_format target htarget
  have hratio : c.toRat / t.toRat =
      exactRatio counter counterDecimals target targetDecimals := by
    rw [hcvalue, htvalue, exactRatio]
  have hcpos : 0 < c.toRat ↔ 0 < counter := by
    rw [hcvalue, div_pos_iff_of_pos_right (by positivity), Nat.cast_pos, UInt64.lt_iff_toNat_lt]
    rfl
  have htpos : 0 < t.toRat ↔ 0 < target := by
    rw [htvalue, div_pos_iff_of_pos_right (by positivity), Nat.cast_pos, UInt64.lt_iff_toNat_lt]
    rfl
  have hwritten {quotient : Decimal} (htarget : 0 < target)
      (hband : 1 ≤ exactRatio counter counterDecimals target targetDecimals ∧
        exactRatio counter counterDecimals target targetDecimals ≤ 10000)
      (hround : Decimal.round? (exactRatio counter counterDecimals target targetDecimals) =
        some quotient) :
      (shortened quotient).text =
        written ⌊1000 * exactRatio counter counterDecimals target targetDecimals + 1 / 2⌋₊ := by
    have hscale := Decimal.le_scale_of_round? (e := 4) (by linarith) hround (by linarith)
    have hplaces : places < quotient.scale := by
      rw [Decimal.maxScale] at hscale
      rw [places]
      omega
    rw [text_shortened ((band_iff_of_exactRatio htarget hround).2 hband).1 hplaces]
    rw [floor_eq_of_compare hband.1 hband.2 fun n hn hn' =>
      compare_of_exactRatio htarget hn hn' hround]
  simp only [implied?_eq_some_iff, hc, ht, ratio?_eq_some_iff, Option.some.injEq]
  constructor
  · rintro ⟨_, _, quotient, rfl, rfl, ⟨hcounter, htarget, hround, hband⟩, rfl⟩
    rw [hcpos] at hcounter
    rw [htpos] at htarget
    rw [hratio] at hround
    obtain ⟨hlow, hhigh⟩ := (band_iff_of_exactRatio htarget hround).1 hband
    exact ⟨hcounter, htarget, hlow, hhigh, hwritten htarget ⟨hlow, hhigh⟩ hround⟩
  · rintro ⟨hcounter, htarget, hlow, hhigh, rfl⟩
    have hroom : (10000 : ℚ) ≤ (Decimal.mantissaBound - 1 : ℕ) := by
      norm_num [Decimal.mantissaBound]
    obtain ⟨quotient, hround⟩ := Decimal.exists_round? (by linarith) (hhigh.trans hroom)
    have hband := (band_iff_of_exactRatio htarget hround).2 ⟨hlow, hhigh⟩
    refine ⟨c, t, quotient, rfl, rfl, ⟨hcpos.2 hcounter, htpos.2 htarget, ?_, hband⟩, ?_⟩
    · rw [hratio]
      exact hround
    · exact (hwritten htarget ⟨hlow, hhigh⟩ hround).symm

private theorem ofTrade?_of_isStableMint {catalog : Catalog} {trade : Trade} {mint : Address}
    {counterAmount : String} (hmint : trade.counterMint = some mint)
    (hstable : catalog.isStableMint mint) (hamount : trade.counterAmount = some counterAmount) :
    ofTrade? catalog trade = implied? counterAmount trade.amount := by
  rw [ofTrade?, hmint, hamount]
  exact if_pos hstable

/-- Amounts of 64 bits with up to 28 places have a price exactly where their exact ratio is in the
band, and the price is that ratio rounded to three places, a half going up. It is what is estimated
for a trade that was settled in the stable token, and what classification attaches to one. -/
theorem implied?_format (hcounter : counterDecimals ≤ 28) (htarget : targetDecimals ≤ 28) :
    (∀ price : String,
      implied? (Amount.format counter counterDecimals) (Amount.format target targetDecimals) =
          some price ↔
        0 < counter ∧ 0 < target ∧
          1 ≤ exactRatio counter counterDecimals target targetDecimals ∧
          exactRatio counter counterDecimals target targetDecimals ≤ 10000 ∧
          price =
            written ⌊1000 * exactRatio counter counterDecimals target targetDecimals + 1 / 2⌋₊) ∧
      (∀ (catalog : Catalog) (trade : Trade) (mint : Address), catalog.isStableMint mint →
        trade.counterMint = some mint →
        trade.counterAmount = some (Amount.format counter counterDecimals) →
        trade.amount = Amount.format target targetDecimals →
        ofTrade? catalog trade =
          implied? (Amount.format counter counterDecimals)
            (Amount.format target targetDecimals)) ∧
      ∀ (registry : Registry) (snapshot : TransactionSnapshot) (side : TradeSide)
        (evidence : TradeEvidence) (identity : AssetIdentity) (source : CounterSource)
        (mint : Address), registry.catalog.isStableMint mint → identity.mint = some mint →
        (registry.tradeOf snapshot ⟨side, target, targetDecimals, evidence⟩
            (some ⟨identity, counter, counterDecimals, source⟩)).usdPrice =
          implied? (Amount.format counter counterDecimals)
            (Amount.format target targetDecimals) := by
  refine ⟨fun price => implied?_format_eq_some_iff hcounter htarget, ?_, ?_⟩
  · intro catalog trade mint hstable hmint hcounterAmount hamount
    rw [ofTrade?_of_isStableMint hmint hstable hcounterAmount, hamount]
  · intro registry snapshot side evidence identity source mint hstable hmint
    exact ofTrade?_of_isStableMint hmint hstable rfl

end Amounts

/-- The half goes up, at the largest precision too. -/
theorem implied?_format_midpoint :
    implied? (Amount.format 20010 28) (Amount.format 20000 28) = some "1.001" := by
  have hratio : exactRatio 20010 28 20000 28 = 2001 / 2000 := by
    change ((20010 : ℕ) : ℚ) / 10 ^ 28 / ((20000 : ℕ) / 10 ^ 28) = 2001 / 2000
    norm_num
  refine ((implied?_format (by decide) (by decide)).1 "1.001").2 ⟨by decide, by decide, ?_⟩
  rw [hratio]
  norm_num
  rfl

end Price
end TradeTracker

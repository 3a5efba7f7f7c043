import Mathlib.Algebra.Order.Ring.Nat
import Mathlib.Tactic.SplitIfs
import TradeTracker.Amount
import TradeTracker.Decimal.Text

/-! Decimals read from plain text. Digits with at most one point come out as they stand, as long as
the mantissa holds them all and no more than 28 are behind the point. -/
namespace TradeTracker

namespace Text

theorem le_ofDigitChars (cs : List Char) (n : Nat) : n ≤ Nat.ofDigitChars 10 cs n := by
  rw [Nat.ofDigitChars_eq_ofDigitChars_zero]
  calc n ≤ 10 ^ cs.length * n := Nat.le_mul_of_pos_left n (Nat.pow_pos (by decide))
    _ ≤ 10 ^ cs.length * n + Nat.ofDigitChars 10 cs 0 := Nat.le_add_right _ _

end Text

namespace Decimal
open Text

attribute [local instance (high)] instPowNat

theorem ofParts?_of_fits {mantissa : Int} {scale : Nat}
    (hmantissa : mantissa.natAbs < mantissaBound) (hscale : scale ≤ 28) :
    ofParts? mantissa scale = some ⟨mantissa, scale, hmantissa, hscale⟩ :=
  dif_pos ⟨hmantissa, hscale⟩

private theorem readDigits_digit {r : Reading} {c : Char} {cs : List Char} (hc : c.isDigit)
    (hroom : r.point → r.scale < maxScale)
    (hfit : r.mantissa * 10 + (c.toNat - 48) < mantissaBound) :
    readDigits r (c :: cs) =
      readDigits ⟨r.mantissa * 10 + (c.toNat - 48), if r.point then r.scale + 1 else r.scale,
        r.point, true, false⟩ cs := by
  have hplace : ¬ (r.point ∧ maxScale ≤ r.scale ∧ ! r.passed) := fun h =>
    absurd (hroom h.1) (Nat.not_lt.2 h.2.1)
  rw [readDigits, if_neg hplace, if_pos hc, if_pos hfit]

/-- A run of digits that fits goes behind the mantissa, and counts as places after the point. The
mantissa only grows, so every part of the run fits because the whole run does. -/
private theorem readDigits_append {ds : List Char} (hne : ds ≠ []) (hds : ∀ c ∈ ds, c.isDigit)
    (r : Reading) (rest : List Char) (hroom : r.point → r.scale + ds.length ≤ maxScale)
    (hfit : Nat.ofDigitChars 10 ds r.mantissa < mantissaBound) :
    readDigits r (ds ++ rest) =
      readDigits ⟨Nat.ofDigitChars 10 ds r.mantissa,
        if r.point then r.scale + ds.length else r.scale, r.point, true, false⟩ rest := by
  induction ds generalizing r with
  | nil => exact absurd rfl hne
  | cons c ds ih =>
    have hnext : Nat.ofDigitChars 10 (c :: ds) r.mantissa =
        Nat.ofDigitChars 10 ds (r.mantissa * 10 + (c.toNat - 48)) := by
      rw [Nat.ofDigitChars_cons, Nat.mul_comm]
      rfl
    rw [hnext] at hfit ⊢
    have hplace : r.point → r.scale < maxScale := fun h => by
      have := hroom h
      rw [List.length_cons] at this
      omega
    rw [List.cons_append, readDigits_digit (hds c List.mem_cons_self) hplace
      (Nat.lt_of_le_of_lt (le_ofDigitChars ds _) hfit)]
    rcases eq_or_ne ds [] with rfl | hds'
    · rfl
    · rw [ih hds' (fun d hd => hds d (List.mem_cons_of_mem _ hd)) _ ?_ hfit]
      · cases r.point with
        | false => rfl
        | true => simp only [if_true, List.length_cons, Nat.add_assoc, Nat.add_comm 1]
      · intro h
        have := hroom h
        rw [List.length_cons] at this
        simp only [if_pos h]
        omega

private theorem readDigits_point {r : Reading} (cs : List Char) (h : r.point = false) :
    readDigits r ('.' :: cs) = readDigits { r with point := true } cs := by
  have hnot : '.'.isDigit = false := rfl
  simp only [readDigits, h, Bool.false_eq_true, false_and, if_false, hnot, if_true]

section Joined
variable {whole fraction : List Char}

private theorem readDigits_joined (hne : whole ≠ []) (hwhole : ∀ c ∈ whole, c.isDigit)
    (hfraction : ∀ c ∈ fraction, c.isDigit) (hscale : fraction.length ≤ maxScale)
    (hfit : digitsValue (whole ++ fraction) < mantissaBound) :
    readDigits ⟨0, 0, false, false, false⟩ (Amount.joined whole fraction) =
      .ok (digitsValue (whole ++ fraction), fraction.length) := by
  rw [digitsValue, Nat.ofDigitChars_append] at hfit ⊢
  have hfit' := Nat.lt_of_le_of_lt (le_ofDigitChars fraction _) hfit
  have hstart (rest : List Char) :=
    readDigits_append hne hwhole ⟨0, 0, false, false, false⟩ rest (by simp) hfit'
  rw [Amount.joined]
  split_ifs with hempty
  · have hend := hstart []
    rw [List.append_nil] at hend
    rw [hend, hempty]
    rfl
  · rw [hstart, readDigits_point _ rfl, ← List.append_nil fraction,
      readDigits_append hempty hfraction _ [] (fun _ => by simpa using hscale)
        (by simpa using hfit)]
    simp [readDigits]

theorem read_joined (hne : whole ≠ []) (hwhole : ∀ c ∈ whole, c.isDigit)
    (hfraction : ∀ c ∈ fraction, c.isDigit) (hscale : fraction.length ≤ maxScale)
    (hfit : digitsValue (whole ++ fraction) < mantissaBound) :
    ∃ d, read (String.ofList (Amount.joined whole fraction)) = .ok d ∧
      d.mantissa = digitsValue (whole ++ fraction) ∧ d.scale = fraction.length := by
  obtain ⟨c, cs, hjoined, hc⟩ : ∃ c cs, Amount.joined whole fraction = c :: cs ∧ c.isDigit := by
    obtain ⟨c, cs, rfl⟩ := List.exists_cons_of_ne_nil hne
    rw [Amount.joined]
    split_ifs
    · exact ⟨c, cs, rfl, hwhole c List.mem_cons_self⟩
    · exact ⟨c, cs ++ '.' :: fraction, rfl, hwhole c List.mem_cons_self⟩
  have hminus : c ≠ '-' := by
    rintro rfl
    exact absurd hc (by decide)
  have hplus : c ≠ '+' := by
    rintro rfl
    exact absurd hc (by decide)
  have hdigits := readDigits_joined hne hwhole hfraction hscale hfit
  have hparts := @ofParts?_of_fits (digitsValue (whole ++ fraction)) fraction.length hfit hscale
  have hplain : readPlain (Amount.joined whole fraction) =
      .ok ⟨digitsValue (whole ++ fraction), fraction.length, hfit, hscale⟩ := by
    rw [hjoined] at hdigits ⊢
    have hplaces : fraction.length % (maxScale + 1) = fraction.length :=
      Nat.mod_eq_of_lt (Nat.lt_succ_of_le hscale)
    simp [readPlain, hminus, hplus, hdigits, hplaces, hparts]
  refine ⟨⟨digitsValue (whole ++ fraction), fraction.length, hfit, hscale⟩, ?_, rfl, rfl⟩
  rw [read, String.toList_ofList, hplain]

end Joined

end Decimal
end TradeTracker

/-! Runs of the ten ASCII digits, their value and their trailing zeros. Here and wherever digits
are counted `^` is core's power, also where a module imports another one. -/
namespace TradeTracker.Text

attribute [local instance (high)] instPowNat

/-- Nothing but ASCII digits; the empty run counts. -/
def allDigits (cs : List Char) : Bool := cs.all Char.isDigit

/-- The number a run of digits denotes in base ten, 0 for the empty run. -/
def digitsValue (cs : List Char) : Nat := Nat.ofDigitChars 10 cs 0

def dropTrailingZeros (cs : List Char) : List Char := (cs.reverse.dropWhile (· == '0')).reverse

theorem allDigits_toDigits (n : Nat) : allDigits (Nat.toDigits 10 n) = true := by
  rw [allDigits, List.all_eq_true]
  exact fun c hc => Nat.isDigit_of_mem_toDigits (by decide) (by decide) hc

@[simp] theorem digitsValue_toDigits (n : Nat) : digitsValue (Nat.toDigits 10 n) = n :=
  Nat.ofDigitChars_ten_toDigits

/-- Digits in front weigh more by the length of those behind. -/
theorem digitsValue_append (cs ds : List Char) :
    digitsValue (cs ++ ds) = digitsValue cs * 10 ^ ds.length + digitsValue ds := by
  rw [digitsValue, Nat.ofDigitChars_append, Nat.ofDigitChars_eq_ofDigitChars_zero, Nat.mul_comm]
  rfl

/-- An unsigned number below `bound`, with at most one plus sign in front. -/
def unsignedBelow? (bound : Nat) (cs : List Char) : Option Nat :=
  let ds := if cs.head? = some '+' then cs.tail else cs
  if ds ≠ [] ∧ allDigits ds ∧ digitsValue ds < bound then some (digitsValue ds) else none

/-- Digits with a point before the last `scale` of them, and no point for scale 0. -/
def pointed (scale : Nat) (digits : List Char) : List Char :=
  let padded := List.replicate (scale + 1 - digits.length) '0' ++ digits
  if scale = 0 then padded
  else padded.take (padded.length - scale) ++ '.' :: padded.drop (padded.length - scale)

end TradeTracker.Text

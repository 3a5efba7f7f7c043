import TradeTracker.Rounding

/-! Decimals with a signed mantissa of at most 96 bits and at most 28 fractional digits. Every
operation takes the exact result and rounds it once, half to even, at the largest scale whose
mantissa fits; where even whole numbers do not fit there is no result. -/
namespace TradeTracker

/-- Mantissas have 96 bits: they stay below this number. -/
def Decimal.mantissaBound : Nat := 79228162514264337593543950336

/-- `mantissa / 10 ^ scale`. Equal numbers may differ in scale, which printing shows. -/
structure Decimal where
  mantissa : Int
  scale : Nat
  mantissa_lt : mantissa.natAbs < Decimal.mantissaBound
  scale_le : scale ≤ 28
deriving DecidableEq

namespace Decimal

attribute [local instance (high)] instPowNat

def maxScale : Nat := 28

def toRat (d : Decimal) : Rat := mkRat d.mantissa (10 ^ d.scale)

def ofParts? (mantissa : Int) (scale : Nat) : Option Decimal :=
  if h : mantissa.natAbs < mantissaBound ∧ scale ≤ 28 then
    some ⟨mantissa, scale, h.1, h.2⟩
  else none

def zero : Decimal := ⟨0, 0, by decide, by decide⟩

def one : Decimal := ⟨1, 0, by decide, by decide⟩

def ofRaw (raw : UInt64) (decimals : Nat) (h : decimals ≤ 28) : Decimal :=
  ⟨raw.toNat, decimals, Nat.lt_of_lt_of_le raw.toNat_lt_size (by decide), h⟩

def ofWhole (n : UInt64) : Decimal := ofRaw n 0 (by decide)

def le (a b : Decimal) : Bool := a.mantissa * 10 ^ b.scale ≤ b.mantissa * 10 ^ a.scale

def lt (a b : Decimal) : Bool := a.mantissa * 10 ^ b.scale < b.mantissa * 10 ^ a.scale

def isZero (d : Decimal) : Bool := d.mantissa == 0

/-- Zero is not positive. -/
def isPositive (d : Decimal) : Bool := 0 < d.mantissa

/-- The largest scale up to `scale` at which the whole part of the shifted quotient fits. -/
def fittingScale? (num den : Nat) : (scale : Nat) → Option Nat
  | 0 => if num / den < mantissaBound then some 0 else none
  | scale + 1 =>
    if num * 10 ^ (scale + 1) / den < mantissaBound then some (scale + 1)
    else fittingScale? num den scale

/-- Mantissa and scale of a quotient of natural numbers. Rounding up to the bound itself costs one
more digit of scale. -/
def roundQuotient? (num den : Nat) : Option (Nat × Nat) := do
  let scale ← fittingScale? num den maxScale
  let mantissa := roundHalfEven (num * 10 ^ scale) den
  if mantissa < mantissaBound then some (mantissa, scale)
  else if scale = 0 then none
  else some (roundHalfEven (num * 10 ^ (scale - 1)) den, scale - 1)

/-- The decimal for `num / den`, rounded where it has to be. -/
def ofQuotient? (num : Int) (den : Nat) : Option Decimal :=
  (roundQuotient? num.natAbs den).bind fun (mantissa, scale) =>
    ofParts? (if num < 0 then - (mantissa : Int) else mantissa) scale

def sub? (a b : Decimal) : Option Decimal :=
  ofQuotient? (a.mantissa * 10 ^ b.scale - b.mantissa * 10 ^ a.scale) (10 ^ (a.scale + b.scale))

def mul? (a b : Decimal) : Option Decimal :=
  ofQuotient? (a.mantissa * b.mantissa) (10 ^ (a.scale + b.scale))

/-- Division by zero has no result. -/
def div? (a b : Decimal) : Option Decimal :=
  if b.mantissa = 0 then none
  else
    ofQuotient? (a.mantissa * 10 ^ b.scale * b.mantissa.sign) (b.mantissa.natAbs * 10 ^ a.scale)

def shortenMantissa (rule : Nat → Nat → Nat) (digits : Nat) (mantissa : Int) : Int :=
  mantissa.sign * (rule mantissa.natAbs (10 ^ digits) : Int)

/-- At most `places` fractional digits, the last one rounded by `rule`. -/
def roundWith (rule : Nat → Nat → Nat) (places : Nat) (d : Decimal) : Decimal :=
  if places < d.scale then
    (ofParts? (shortenMantissa rule (d.scale - places) d.mantissa) places).getD d
  else d

/-- At most `places` fractional digits, a half going to the even neighbour. -/
def roundEven (places : Nat) (d : Decimal) : Decimal := d.roundWith roundHalfEven places

/-- At most `places` fractional digits, a half going away from zero. -/
def roundAway (places : Nat) (d : Decimal) : Decimal := d.roundWith roundHalfUp places

/-- The same number with at least `places` fractional digits, where the mantissa has room. -/
def extend (places : Nat) (d : Decimal) : Decimal :=
  if d.scale < places then
    (ofParts? (d.mantissa * 10 ^ (places - d.scale)) places).getD d
  else d

/-- How many of the last `digits` decimal digits are zeros that may go. -/
def trailingZeros : (digits : Nat) → Nat → Nat
  | 0, _ => 0
  | digits + 1, n => if n % 10 = 0 then trailingZeros digits (n / 10) + 1 else 0

/-- The same number with the smallest scale. -/
def normalize (d : Decimal) : Decimal :=
  let zeros := trailingZeros d.scale d.mantissa.natAbs
  (ofParts? (d.mantissa / 10 ^ zeros) (d.scale - zeros)).getD d

end Decimal
end TradeTracker

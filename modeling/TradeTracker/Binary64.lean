import TradeTracker.Rounding
import TradeTracker.Text.Digits

/-! Binary floating-point numbers of 64 bits, as exact values. Reading rounds a decimal to the
nearest one, half to even; printing writes the fewest digits that read back, without a power of
ten however long the number is. -/
namespace TradeTracker

/-- `mantissa * 2 ^ exponent`, an infinity, or no number. The mantissa has at most 53 bits. -/
inductive Binary64
  | finite (negative : Bool) (mantissa : Nat) (exponent : Int)
  | infinite (negative : Bool)
  | notANumber
deriving DecidableEq, Repr

namespace Binary64

attribute [local instance (high)] instPowNat

def minExponent : Int := -1074

def precision : Nat := 53

/-- All finite numbers are below two to this power. -/
def maxExponent : Nat := 1024

/-- The nearest number to `num / den`, which is positive. -/
def nearest (negative : Bool) (num den : Nat) : Binary64 :=
  let mantissaAt (q : Int) : Nat := roundHalfEven (num * 2 ^ (-q).toNat) (den * 2 ^ q.toNat)
  let fits (q : Int) : Bool := num * 2 ^ (-q).toNat < 2 ^ precision * (den * 2 ^ q.toNat)
  let low := max minExponent ((num.log2 : Int) - den.log2 - precision)
  let q := if fits low then low else low + 1
  if 2 ^ maxExponent ≤ mantissaAt q * 2 ^ q.toNat then infinite negative
  else finite negative (mantissaAt q) q

/-- The nearest number to `digits * 10 ^ power`. Far beyond either end of the range the result is
known without computing it. -/
def ofScientific (negative : Bool) (digits : Nat) (power : Int) : Binary64 :=
  let magnitude := ((Nat.toDigits 10 digits).length : Int) + power
  if digits = 0 ∨ magnitude < -400 then finite negative 0 minExponent
  else if 400 < magnitude then infinite negative
  else nearest negative (digits * 10 ^ power.toNat) (10 ^ (-power).toNat)

def ofRatio (negative : Bool) (num den : Nat) : Binary64 :=
  if num = 0 then finite negative 0 minExponent else nearest negative num den

/-- The product of two finite numbers, rounded once; an infinite factor is kept. -/
def mul : Binary64 → Binary64 → Binary64
  | finite n₁ m₁ q₁, finite n₂ m₂ q₂ =>
    ofRatio (n₁ != n₂) (m₁ * m₂ * 2 ^ (q₁ + q₂).toNat) (2 ^ (-(q₁ + q₂)).toNat)
  | finite _ _ _, y => y
  | x, _ => x

/-- The quotient of two finite numbers, rounded once. The divisor is not zero. -/
def div : Binary64 → Binary64 → Binary64
  | finite n₁ m₁ q₁, finite n₂ m₂ q₂ =>
    ofRatio (n₁ != n₂) (m₁ * 2 ^ (q₁ - q₂).toNat) (m₂ * 2 ^ (q₂ - q₁).toNat)
  | finite _ _ _, y => y
  | x, _ => x

def neg : Binary64 → Binary64
  | finite negative mantissa exponent => finite (! negative) mantissa exponent
  | infinite negative => infinite (! negative)
  | notANumber => notANumber

def isPowerMark (c : Char) : Bool := c == 'e' || c == 'E'

def splitSign (cs : List Char) : Bool × List Char :=
  if cs.head? = some '-' then (true, cs.tail)
  else if cs.head? = some '+' then (false, cs.tail)
  else (false, cs)

/-- The nearest number to a literal: a sign, digits, a fraction behind a point and a power of ten
behind an `e`, of which only the digits have to be there. -/
def ofLiteral (cs : List Char) : Binary64 :=
  let (negative, magnitude) := splitSign (cs.takeWhile (! isPowerMark ·))
  let (shrinks, power) := splitSign (cs.dropWhile (! isPowerMark ·)).tail
  let whole := magnitude.takeWhile Char.isDigit
  let fraction := (magnitude.dropWhile Char.isDigit).tail
  let shift : Int := if shrinks then - (Text.digitsValue power : Int) else Text.digitsValue power
  ofScientific negative (Text.digitsValue (whole ++ fraction)) (shift - fraction.length)

def words : List (String × Binary64) :=
  [("inf", infinite false), ("infinity", infinite false), ("nan", notANumber)]

/-- Whether characters are a power of ten: nothing, or a mark, a sign if any, and digits. -/
def isPower (cs : List Char) : Bool :=
  let digits := (splitSign cs.tail).2
  cs == [] || (isPowerMark (cs.headD ' ') && digits != [] && Text.allDigits digits)

/-- The nearest number to a literal, or one of the words in letters of either case. A literal has at
least one digit in front of its power of ten; with a sign or without, it is all of the text. -/
def read? (cs : List Char) : Option Binary64 :=
  let (negative, magnitude) := splitSign cs
  match words.lookup (String.ofList (magnitude.map Char.toLower)) with
  | some value => some (if negative then value.neg else value)
  | none =>
    let whole := magnitude.takeWhile Char.isDigit
    let behind := magnitude.dropWhile Char.isDigit
    let fraction := if behind.head? = some '.' then behind.tail.takeWhile Char.isDigit else []
    let power := if behind.head? = some '.' then behind.tail.dropWhile Char.isDigit else behind
    if whole ++ fraction ≠ [] ∧ isPower power then some (ofLiteral cs) else none

def isFinite : Binary64 → Bool
  | finite _ _ _ => true
  | _ => false

def isZero : Binary64 → Bool
  | finite _ mantissa _ => mantissa == 0
  | _ => false

/-- The nearest 64-bit count, a half going up; everything below is 0 and everything above the
largest. -/
def toCount : Binary64 → UInt64
  | finite false mantissa exponent =>
    let rounded := roundHalfUp (mantissa * 2 ^ exponent.toNat) (2 ^ (-exponent).toNat)
    UInt64.ofNat (min rounded (UInt64.size - 1))
  | infinite false => UInt64.ofNat (UInt64.size - 1)
  | _ => 0

/-- Whether `candidate * 10 ^ power` reads back as `mantissa * 2 ^ exponent`. -/
def readsBack (mantissa : Nat) (exponent : Int) (candidate : Nat) (power : Int) : Bool :=
  match ofScientific false candidate power with
  | finite _ m q =>
    candidate != 0 && m * 2 ^ (q - exponent).toNat == mantissa * 2 ^ (exponent - q).toNat
  | _ => false

/-- The nearest of the two neighbours on a decimal grid that reads back, from halfway between them
on the one above. -/
def candidateAt? (mantissa : Nat) (exponent power : Int) : Option Nat :=
  let num := mantissa * 2 ^ exponent.toNat * 10 ^ (-power).toNat
  let den := 2 ^ (-exponent).toNat * 10 ^ power.toNat
  let below := num / den
  let ordered := if 2 * (num % den) < den then [below, below + 1] else [below + 1, below]
  ordered.find? (readsBack mantissa exponent · power)

/-- The coarsest decimal grid from `power` down with a neighbour that reads back. -/
def shortest (mantissa : Nat) (exponent : Int) : (steps : Nat) → (power : Int) → Nat × Int
  | 0, power => ((candidateAt? mantissa exponent power).getD 0, power)
  | steps + 1, power =>
    match candidateAt? mantissa exponent power with
    | some candidate => (candidate, power)
    | none => shortest mantissa exponent steps (power - 1)

/-- Digits of `candidate * 10 ^ power`. -/
def positional (candidate : Nat) (power : Int) : List Char :=
  if 0 ≤ power then Nat.toDigits 10 candidate ++ List.replicate power.toNat '0'
  else Text.pointed (-power).toNat (Nat.toDigits 10 candidate)

def text : Binary64 → String
  | finite negative mantissa exponent =>
    let magnitude :=
      if mantissa = 0 then ['0']
      else
        let highest := ((mantissa.log2 : Int) + exponent + 1) * 30103 / 100000 + 1
        let (candidate, power) := shortest mantissa exponent 24 highest
        positional candidate power
    String.ofList (if negative then '-' :: magnitude else magnitude)
  | infinite negative => if negative then "-inf" else "inf"
  | notANumber => "NaN"

end Binary64
end TradeTracker

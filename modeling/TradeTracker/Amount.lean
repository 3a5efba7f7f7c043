import TradeTracker.Text.Quoted
import TradeTracker.Text.Digits

/-! Token amounts: a raw count of base units beside its decimal text at a token's precision.
Writing is exact at every precision; reading accepts digits with at most one point, never more
fraction than the precision holds, and never a count past 64 bits. -/
namespace TradeTracker

inductive AmountError
  | empty
  | invalid (text : String)
  | tooPrecise (text : String) (decimals : UInt8)
  | overflow (text : String)
  | unsupportedDecimals (decimals : UInt8)
deriving DecidableEq, Repr

namespace Amount
open Text

attribute [local instance (high)] instPowNat

def maxDecimals : UInt8 := 18

/-- Digits led by as many zeros as it takes to have one more than `decimals`. -/
def padded (decimals : Nat) (digits : List Char) : List Char :=
  List.replicate (decimals + 1 - digits.length) '0' ++ digits

/-- A whole part, and a fraction after a point unless it is empty. -/
def joined (whole fraction : List Char) : List Char :=
  if fraction = [] then whole else whole ++ '.' :: fraction

/-- The decimal text of `raw / 10 ^ decimals`, with no zero at the end of its fraction. -/
def format (raw : UInt64) (decimals : UInt8) : String :=
  let digits := padded decimals.toNat (Nat.toDigits 10 raw.toNat)
  let wholeLength := digits.length - decimals.toNat
  String.ofList (joined (digits.take wholeLength) (dropTrailingZeros (digits.drop wholeLength)))

/-- The parts before and after the first point; a text without one is all whole part. -/
def splitPoint (cs : List Char) : List Char × List Char :=
  (cs.takeWhile (· != '.'), (cs.dropWhile (· != '.')).tail)

/-- The whole number of base units in `whole.fraction`, if the fraction has at most `decimals`
digits. -/
def scaled (decimals : Nat) (whole fraction : List Char) : Nat :=
  digitsValue whole * 10 ^ decimals + digitsValue fraction * 10 ^ (decimals - fraction.length)

/-- Reads a decimal text at a precision. Zeros at the end of the fraction never count as
precision. -/
def parse (text : String) (decimals : UInt8) : Except AmountError UInt64 :=
  let (whole, fraction) := splitPoint text.toList
  let significant := dropTrailingZeros fraction
  if maxDecimals < decimals then .error (.unsupportedDecimals decimals)
  else if text.toList = [] then .error .empty
  else if whole = [] ∨ allDigits whole = false ∨ allDigits fraction = false then
    .error (.invalid text)
  else if decimals.toNat < significant.length then .error (.tooPrecise text decimals)
  else if scaled decimals.toNat whole significant < UInt64.size then
    .ok (UInt64.ofNat (scaled decimals.toNat whole significant))
  else .error (.overflow text)

def parseRaw (text : String) : Except AmountError UInt64 :=
  if text.toList = [] then .error .empty
  else if allDigits text.toList = false then .error (.invalid text)
  else if digitsValue text.toList < UInt64.size then .ok (UInt64.ofNat (digitsValue text.toList))
  else .error (.overflow text)

end Amount

namespace AmountError

def message : AmountError → String
  | empty => "Empty amount string"
  | invalid text => "Invalid amount string: " ++ Text.quoted text
  | tooPrecise text decimals =>
    "Amount " ++ Text.quoted text ++ " has more than " ++ decimals.toNat.repr ++
      " fractional digits"
  | overflow text => "Amount " ++ Text.quoted text ++ " does not fit in a u64"
  | unsupportedDecimals decimals =>
    "Unsupported decimals: " ++ decimals.toNat.repr ++ " (max " ++
      Amount.maxDecimals.toNat.repr ++ ")"

end AmountError
end TradeTracker

import TradeTracker.Decimal.Basic
import TradeTracker.Text.Digits

/-! Decimal text. Printing writes every digit of the scale. Reading accepts a sign, digits with at
most one point, separators between them, and a power of ten behind an `e`; digits beyond the
28th place or the 96th bit round the number off. -/
namespace TradeTracker

inductive DecimalError
  | empty
  | noDigits
  | secondPoint
  | leadingSeparator
  | unknownCharacter
  | tooManyDigits
  | overflowAfterRounding
  | badExponent
  | powerBeyondScale (power : Nat)
  | tooLarge
deriving DecidableEq, Repr

def DecimalError.message : DecimalError → String
  | empty => "Invalid decimal: empty"
  | noDigits => "Invalid decimal: no digits found"
  | secondPoint => "Invalid decimal: two decimal points"
  | leadingSeparator => "Invalid decimal: must start lead with a number"
  | unknownCharacter => "Invalid decimal: unknown character"
  | tooManyDigits => "Invalid decimal: overflow from too many digits"
  | overflowAfterRounding => "Invalid decimal: overflow from mantissa after rounding"
  | badExponent => "Failed to parse"
  | powerBeyondScale power =>
    "Scale exceeds the maximum precision allowed: " ++ power.repr ++ " > 28"
  | tooLarge => "Number exceeds maximum value that can be represented."

namespace Decimal
open Text

attribute [local instance (high)] instPowNat

/-- A number read so far: its magnitude, its scale, and what has been seen of it. In `passed` stands
whether a separator behind the last place has just been passed over. -/
structure Reading where
  mantissa : Nat
  scale : Nat
  point : Bool
  digit : Bool
  passed : Bool

def misplaced (c : Char) : DecimalError := if c = '.' then .secondPoint else .unknownCharacter

/-- Rounds the last digit kept by the character behind it, of which only a digit can round up. What
is behind that has to be digits and separators, but does not count. -/
def roundOff (r : Reading) (c : Char) (rest : List Char) : Except DecimalError (Nat × Nat) :=
  if c.isDigit = false ∧ c ≠ '_' then .error (misplaced c)
  else
    let up := c.isDigit && 53 ≤ c.toNat
    let carries := up && r.mantissa + 1 = mantissaBound
    if carries ∧ r.scale = 0 then .error .overflowAfterRounding
    else
      match rest.find? fun c => ! (c.isDigit || c == '_') with
      | some c => .error (misplaced c)
      | none =>
        if carries then .ok ((r.mantissa + 1 + 4) / 10, r.scale - 1)
        else .ok (if up then r.mantissa + 1 else r.mantissa, r.scale)

/-- The mantissas from here on are read with more care: a separator behind the last place is passed
over, and the digit behind it still counts where it fits, while behind a shorter mantissa the
separator stands for a digit that rounds nothing up. -/
def wideMantissa : Nat := (UInt64.size - 1) / 10 - 255

def readDigits (r : Reading) : List Char → Except DecimalError (Nat × Nat)
  | [] => if r.digit then .ok (r.mantissa, r.scale) else .error .noDigits
  | c :: cs =>
    if r.point ∧ maxScale ≤ r.scale ∧ ! r.passed then
      if c = '_' ∧ wideMantissa ≤ r.mantissa / 10 then readDigits { r with passed := true } cs
      else roundOff r c cs
    else if c.isDigit then
      let next := r.mantissa * 10 + (c.toNat - 48)
      if next < mantissaBound then
        readDigits ⟨next, if r.point then r.scale + 1 else r.scale, r.point, true, false⟩ cs
      else if r.point then roundOff r c cs
      else .error .tooManyDigits
    else if c = '.' then
      if r.point then .error .secondPoint else readDigits { r with point := true } cs
    else if c = '_' then
      if r.digit then readDigits r cs else .error .leadingSeparator
    else .error .unknownCharacter

/-- A number without a power of ten. Places beyond the last one are counted from none again. -/
def readPlain (cs : List Char) : Except DecimalError Decimal :=
  if cs = [] then .error .empty
  else
    let negative := cs.head? = some '-'
    let unsigned := if negative ∨ cs.head? = some '+' then cs.tail else cs
    match readDigits ⟨0, 0, false, false, false⟩ unsigned with
    | .error e => .error e
    | .ok (mantissa, places) =>
      let signed : Int := if negative then - (mantissa : Int) else mantissa
      match ofParts? signed (places % (maxScale + 1)) with
      | some d => .ok d
      | none => .error .tooManyDigits

def orTooLarge (d : Option Decimal) : Except DecimalError Decimal := d.elim (.error .tooLarge) .ok

/-- `d / 10 ^ n`. Where the scale has no room, the last digits are rounded off first. -/
def shiftRight (d : Decimal) (n : Nat) : Except DecimalError Decimal :=
  if maxScale < n then .error (.powerBeyondScale n)
  else if d.scale + n ≤ maxScale then orTooLarge (ofParts? d.mantissa (d.scale + n))
  else
    orTooLarge
      (ofParts? (shortenMantissa roundHalfUp (d.scale + n - maxScale) d.mantissa) maxScale)

/-- `d * 10 ^ n`, without zeros at the end of a fraction once it is longer than the scale. -/
def shiftLeft (d : Decimal) (n : Nat) : Except DecimalError Decimal :=
  if n ≤ d.scale then orTooLarge (ofParts? d.mantissa (d.scale - n))
  else if maxScale < n then .error (.powerBeyondScale n)
  else (orTooLarge (ofQuotient? (d.mantissa * 10 ^ n) (10 ^ d.scale))).map normalize

def isExponentMark (c : Char) : Bool := c == 'e' || c == 'E'

def readScientific (base exponent : List Char) : Except DecimalError Decimal := do
  let d ← readPlain base
  let shrinks := exponent.head? = some '-'
  match unsignedBelow? UInt32.size (if shrinks then exponent.tail else exponent) with
  | none => .error .badExponent
  | some n => if shrinks then d.shiftRight n else d.shiftLeft n

/-- Reads a decimal. A power of ten is looked for only in a text that is no plain number. -/
def read (text : String) : Except DecimalError Decimal :=
  let cs := text.toList
  match readPlain cs with
  | .ok d => .ok d
  | .error e =>
    if cs.any isExponentMark then
      readScientific (cs.takeWhile (! isExponentMark ·)) (cs.dropWhile (! isExponentMark ·)).tail
    else .error e

def read? (text : String) : Option Decimal := (read text).toOption

/-- Every digit of the scale, and a minus sign below zero. -/
def text (d : Decimal) : String :=
  let magnitude := pointed d.scale (Nat.toDigits 10 d.mantissa.natAbs)
  String.ofList (if d.mantissa < 0 then '-' :: magnitude else magnitude)

instance : Repr Decimal := ⟨fun d _ => d.text⟩

end Decimal
end TradeTracker

import TradeTracker.Binary64
import TradeTracker.Json.Basic

/-! JSON numbers as binary floating-point numbers. As many digits as fit 64 bits are taken and
multiplied or divided by a power of ten. Each of these steps rounds, so the result may miss the
nearest number to the literal by a little. -/
namespace TradeTracker
namespace JsonNumber

/-- Appends digits to a number as long as it fits 64 bits; the digits without room are left. -/
def appendDigits (n : Nat) : List Char → Nat × List Char
  | [] => (n, [])
  | c :: cs =>
    let next := n * 10 + (c.toNat - 48)
    if next < UInt64.size then appendDigits next cs else (n, c :: cs)

def maxPower : Nat := 308

/-- `x / 10 ^ power` in steps of `maxPower`; three of them make zero of anything that fits 64
bits. -/
def shrink (x : Binary64) (power : Nat) : (steps : Nat) → Binary64
  | 0 => .ofRatio false 0 1
  | steps + 1 =>
    if power ≤ maxPower then x.div (.ofScientific false 1 power)
    else shrink (x.div (.ofScientific false 1 maxPower)) (power - maxPower) steps

/-- `n * 10 ^ power`, unless it is too large. -/
def scaled? (n : Nat) (power : Int) : Option Binary64 :=
  let x := Binary64.ofScientific false n 0
  if n = 0 then some x
  else if power < 0 then some (shrink x power.natAbs 4)
  else if maxPower < power then none
  else
    let x := x.mul (.ofScientific false 1 power)
    if x.isFinite then some x else none

/-- The powers written in a literal are below this number; a larger one makes zero or nothing. -/
def powerBound : Nat := 2147483648

def magnitude? (cs : List Char) : Option Binary64 :=
  let digits := cs.takeWhile (! Binary64.isPowerMark ·)
  let (shrinks, power) := Binary64.splitSign (cs.dropWhile (! Binary64.isPowerMark ·)).tail
  let (front, dropped) := appendDigits 0 (digits.takeWhile Char.isDigit)
  let fraction := (digits.dropWhile Char.isDigit).tail
  let (n, unread) := appendDigits front fraction
  let shift : Int := (dropped.length : Int) - (fraction.length - unread.length : Nat)
  let written := Text.digitsValue power
  if written < powerBound then
    scaled? n (if shrinks then shift - written else shift + written)
  else if n = 0 ∨ shrinks then scaled? 0 0
  else none

def literal : JsonNumber → List Char
  | whole n => n.repr.toList
  | written literal => literal.toList

def toBinary64? (n : JsonNumber) : Option Binary64 :=
  let (negative, magnitude) := Binary64.splitSign n.literal
  (magnitude? magnitude).map fun x => if negative then x.neg else x

end JsonNumber
end TradeTracker

import TradeTracker.Text.Digits

/-! Dates and times. A date, a time or both, with an offset from universal time only behind a date.
The written form of an instant is its own; fractions of a second end in no zero. -/
namespace TradeTracker.Toml

structure Date where
  year : Nat
  month : Nat
  day : Nat
deriving DecidableEq, Repr

structure ClockTime where
  hour : Nat
  minute : Nat
  second : Nat
  /-- Billionths of a second. -/
  fraction : Nat
deriving DecidableEq, Repr

inductive Offset
  | universal
  | shifted (behind : Bool) (hours minutes : Nat)
deriving DecidableEq, Repr

structure Instant where
  date : Option Date
  time : Option ClockTime
  offset : Option Offset
deriving DecidableEq, Repr

def fixedDigits? (count : Nat) (cs : List Char) : Option (Nat × List Char) :=
  let digits := cs.take count
  if digits.length = count ∧ Text.allDigits digits then
    some (Text.digitsValue digits, cs.drop count)
  else none

def after? (mark : Char) (cs : List Char) : Option (List Char) :=
  if cs.head? = some mark then some cs.tail else none

def padded (width n : Nat) : List Char :=
  let digits := Nat.toDigits 10 n
  List.replicate (width - digits.length) '0' ++ digits

namespace Date

/-- Every month may have 31 days. -/
def read? (cs : List Char) : Option (Date × List Char) := do
  let (year, cs) ← fixedDigits? 4 cs
  let (month, cs) ← fixedDigits? 2 (← after? '-' cs)
  let (day, cs) ← fixedDigits? 2 (← after? '-' cs)
  if 1 ≤ month ∧ month ≤ 12 ∧ 1 ≤ day ∧ day ≤ 31 then some (⟨year, month, day⟩, cs) else none

def text (d : Date) : List Char :=
  padded 4 d.year ++ '-' :: padded 2 d.month ++ '-' :: padded 2 d.day

end Date

namespace ClockTime

attribute [local instance (high)] instPowNat

def places : Nat := 9

/-- A fraction, if there is one; it has at least one digit. -/
def readFraction? (cs : List Char) : Option (Nat × List Char) :=
  match after? '.' cs with
  | none => some (0, cs)
  | some cs =>
    let digits := cs.takeWhile Char.isDigit
    let counted := digits.take places
    if digits = [] then none
    else
      some (Text.digitsValue counted * 10 ^ (places - counted.length), cs.dropWhile Char.isDigit)

def read? (cs : List Char) : Option (ClockTime × List Char) := do
  let (hour, cs) ← fixedDigits? 2 cs
  let (minute, cs) ← fixedDigits? 2 (← after? ':' cs)
  let (second, cs) ← fixedDigits? 2 (← after? ':' cs)
  let (fraction, cs) ← readFraction? cs
  if hour ≤ 24 ∧ minute ≤ 59 ∧ second ≤ 59 then some (⟨hour, minute, second, fraction⟩, cs)
  else none

def text (t : ClockTime) : List Char :=
  padded 2 t.hour ++ ':' :: padded 2 t.minute ++ ':' :: padded 2 t.second ++
    (if t.fraction = 0 then [] else '.' :: Text.dropTrailingZeros (padded places t.fraction))

end ClockTime

namespace Offset

def read? (cs : List Char) : Option (Offset × List Char) :=
  match cs with
  | [] => none
  | mark :: cs =>
    if mark = 'Z' ∨ mark = 'z' then some (universal, cs)
    else if mark = '+' ∨ mark = '-' then do
      let (hours, cs) ← fixedDigits? 2 cs
      let (minutes, cs) ← fixedDigits? 2 (← after? ':' cs)
      some (shifted (mark = '-') hours minutes, cs)
    else none

/-- An offset of no hours has a plus sign. -/
def text : Offset → List Char
  | universal => ['Z']
  | shifted behind hours minutes =>
    (if behind ∧ hours ≠ 0 then '-' else '+') :: padded 2 hours ++ ':' :: padded 2 minutes

end Offset

namespace Instant

/-- Time and offset behind a date, either of which may be missing. -/
def readBehind? (date : Date) (cs : List Char) : Option Instant := do
  let (time, cs) ←
    if cs.head?.any fun mark => mark = 'T' ∨ mark = 't' ∨ mark = ' ' then
      (ClockTime.read? cs.tail).map fun (time, cs) => (some time, cs)
    else some (none, cs)
  if cs = [] then some ⟨some date, time, none⟩
  else
    let (offset, cs) ← Offset.read? cs
    if cs = [] then some ⟨some date, time, some offset⟩ else none

/-- A colon in the third place marks a time without a date. -/
def read? (cs : List Char) : Option Instant :=
  if cs[2]? = some ':' then do
    let (time, cs) ← ClockTime.read? cs
    if cs = [] then some ⟨none, some time, none⟩ else none
  else do
    let (date, cs) ← Date.read? cs
    readBehind? date cs

def text (i : Instant) : List Char :=
  let date := (i.date.map Date.text).getD []
  let time := (i.time.map ClockTime.text).getD []
  let offset := (i.offset.map Offset.text).getD []
  date ++ (if i.date.isSome ∧ i.time.isSome then ['T'] else []) ++ time ++ offset

end Instant
end TradeTracker.Toml

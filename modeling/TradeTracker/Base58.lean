/-! Base-58 text of byte strings, in the alphabet without 0, O, I and l. A leading zero byte is a
leading 1, and the rest is one number written in base 58, so every byte string has one text. -/
namespace TradeTracker.Base58

def alphabet : List Char := "123456789ABCDEFGHJKLMNPQRSTUVWXYZabcdefghijkmnopqrstuvwxyz".toList

def digitValue? (c : Char) : Option Nat := alphabet.idxOf? c

def digit (n : Nat) : Char := alphabet.getD n '1'

/-- The number that digits, most significant first, denote in a base. -/
def ofDigits (base : Nat) (digits : List Nat) : Nat := digits.foldl (fun n d => base * n + d) 0

/-- Digits below `base`, most significant first, put before `tail`; none for zero. The fuel bounds
their number. -/
def digitsBefore (base : Nat) : (fuel : Nat) → Nat → List Nat → List Nat
  | 0, _, tail => tail
  | fuel + 1, n, tail =>
    if n = 0 then tail else digitsBefore base fuel (n / base) (n % base :: tail)

/-- The digits of a number in a base, most significant first and without a leading zero. -/
def toDigits (base n : Nat) : List Nat := digitsBefore base n n []

def firstFault? (cs : List Char) : Option (Char × Nat) :=
  (cs.zipIdx).find? fun (c, _) => (digitValue? c).isNone

def decode? (cs : List Char) : Option (List UInt8) := do
  let digits ← cs.mapM digitValue?
  let number := ofDigits 58 (digits.dropWhile (· == 0))
  some (List.replicate (digits.takeWhile (· == 0)).length 0 ++
    (toDigits 256 number).map UInt8.ofNat)

def encode (bytes : List UInt8) : List Char :=
  let number := ofDigits 256 ((bytes.dropWhile (· == 0)).map UInt8.toNat)
  List.replicate (bytes.takeWhile (· == 0)).length '1' ++ (toDigits 58 number).map digit

end TradeTracker.Base58

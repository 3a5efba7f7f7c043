/-! Numbers in a base of at most sixteen, and the characters they are codes of. -/
namespace TradeTracker.Text

/-- The value of a digit. Letters of either case stand for ten and more. -/
def digit? (base : Nat) (c : Char) : Option Nat :=
  let digit := if c.isDigit then c.toNat - 48 else c.toLower.toNat - 87
  if c.isAlphanum ∧ digit < base then some digit else none

def ofDigits? (base : Nat) (cs : List Char) : Option Nat :=
  cs.foldlM (fun n c => (digit? base c).map fun digit => n * base + digit) 0

/-- The character with a code, unless the code is half of a surrogate pair or too large. -/
def charOfCode? (code : Nat) : Option Char :=
  if h : code.isValidChar then some (Char.ofNatAux code h) else none

def charOfHex? (digits : List Char) : Option Char := (ofDigits? 16 digits).bind charOfCode?

end TradeTracker.Text

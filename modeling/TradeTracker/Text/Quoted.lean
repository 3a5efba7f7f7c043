import TradeTracker.Text.Unprintable
import TradeTracker.Text.Extending

/-! Text between two quote marks, as error messages show it. What has no printed shape, or would
join the character before it, is written as its code point, so a quotation never looks like
another text. -/
namespace TradeTracker.Text

/-- The code point in lower-case hexadecimal, without leading zeros, in braces. -/
def codePoint (c : Char) : List Char :=
  ['\x5c', 'u', '\x7b'] ++ Nat.toDigits 16 c.toNat ++ ['\x7d']

/-- One character inside the marks `mark`; the other kind of mark stands as it is. -/
def quoteChar (mark c : Char) : List Char :=
  if c = mark ∨ c = '\x5c' then ['\x5c', c]
  else if c = '\x00' then ['\x5c', '0']
  else if c = '\t' then ['\x5c', 't']
  else if c = '\n' then ['\x5c', 'n']
  else if c = '\r' then ['\x5c', 'r']
  else if isExtending c || isUnprintable c then codePoint c
  else [c]

def quoted (s : String) : String :=
  String.ofList (['\x22'] ++ s.toList.flatMap (quoteChar '\x22') ++ ['\x22'])

def quotedChar (c : Char) : String :=
  String.ofList (['\x27'] ++ quoteChar '\x27' c ++ ['\x27'])

end TradeTracker.Text

import TradeTracker.Json.Basic
import TradeTracker.Text.Code
import TradeTracker.Text.Digits

/-! The tokens of JSON text. Blanks separate tokens and vanish, so every layout of a value has one
token sequence. -/
namespace TradeTracker.Json
open Text

inductive Token
  | openArray
  | closeArray
  | openObject
  | closeObject
  | comma
  | colon
  | scalar (value : Json)
deriving Repr

/-- What one escape or character of a string literal stands for: a character, or half of one. -/
inductive Piece
  | char (c : Char)
  | half (code : Nat)
deriving DecidableEq, Repr

def pieceOfCode (n : Nat) : Piece :=
  if 0xD800 ≤ n ∧ n < 0xE000 then .half n else .char (Char.ofNat n)

def shortEscape? (c : Char) : Option Char :=
  if c = '\x22' ∨ c = '\x5c' ∨ c = '/' then some c
  else if c = 'b' then some '\x08'
  else if c = 'f' then some '\x0c'
  else if c = 'n' then some '\n'
  else if c = 'r' then some '\r'
  else if c = 't' then some '\t'
  else none

/-- Reads behind the opening quote up to the closing one. Control characters must be escaped. -/
def readPieces : List Char → Option (List Piece × List Char)
  | [] => none
  | c :: cs =>
    if c = '\x22' then some ([], cs)
    else if c = '\x5c' then
      match cs with
      | [] => none
      | e :: cs =>
        if e = 'u' then
          match cs with
          | h₁ :: h₂ :: h₃ :: h₄ :: cs => do
            let code ← ofDigits? 16 [h₁, h₂, h₃, h₄]
            let (pieces, rest) ← readPieces cs
            some (pieceOfCode code :: pieces, rest)
          | _ => none
        else do
          let c ← shortEscape? e
          let (pieces, rest) ← readPieces cs
          some (.char c :: pieces, rest)
    else if c.toNat < 32 then none
    else do
      let (pieces, rest) ← readPieces cs
      some (.char c :: pieces, rest)

/-- The text of a string literal: a leading and a trailing half side by side are one character,
any other half leaves the literal without text. -/
def textOfPieces : List Piece → Option (List Char)
  | [] => some []
  | .char c :: pieces => (textOfPieces pieces).map (c :: ·)
  | .half a :: .half b :: pieces =>
    if a < 0xDC00 ∧ 0xDC00 ≤ b then
      (textOfPieces pieces).map (Char.ofNat (0x10000 + (a - 0xD800) * 0x400 + (b - 0xDC00)) :: ·)
    else none
  | .half _ :: _ => none

def stringOfPieces (pieces : List Piece) : Json :=
  match textOfPieces pieces with
  | some cs => str (String.ofList cs)
  | none => unpaired

def isNumberChar (c : Char) : Bool :=
  c.isDigit || c == '-' || c == '+' || c == '.' || c == 'e' || c == 'E'

/-- Digits without a superfluous zero in front. -/
def isWholePart (cs : List Char) : Bool :=
  cs != [] && allDigits cs && (cs.head? != some '0' || cs.length == 1)

/-- Empty, or a point and at least one digit. -/
def isFraction : List Char → Bool
  | [] => true
  | c :: cs => c == '.' && cs != [] && allDigits cs

/-- Empty, or a mark, a sign if any, and at least one digit. -/
def isExponent : List Char → Bool
  | [] => true
  | c :: cs =>
    let digits := if cs.head? == some '-' || cs.head? == some '+' then cs.tail else cs
    (c == 'e' || c == 'E') && digits != [] && allDigits digits

def numberOfLiteral? (cs : List Char) : Option JsonNumber :=
  let negative := cs.head? = some '-'
  let magnitude := if negative then cs.tail else cs
  let whole := magnitude.takeWhile Char.isDigit
  let afterWhole := magnitude.dropWhile Char.isDigit
  let fraction := afterWhole.takeWhile (fun c => c != 'e' && c != 'E')
  let exponent := afterWhole.dropWhile (fun c => c != 'e' && c != 'E')
  if isWholePart whole && isFraction fraction && isExponent exponent then
    if afterWhole = [] ∧ ¬ (negative ∧ digitsValue whole = 0) then
      some (.whole (if negative then - (digitsValue whole : Int) else digitsValue whole))
    else some (.written (String.ofList cs))
  else none

def isSpace (c : Char) : Bool := c == ' ' || c == '\n' || c == '\t' || c == '\r'

def mark? (c : Char) : Option Token :=
  if c = '[' then some .openArray
  else if c = ']' then some .closeArray
  else if c = '\x7b' then some .openObject
  else if c = '\x7d' then some .closeObject
  else if c = ',' then some .comma
  else if c = ':' then some .colon
  else none

def word? (cs : List Char) : Option Json :=
  if cs = "null".toList then some null
  else if cs = "true".toList then some (bool true)
  else if cs = "false".toList then some (bool false)
  else none

/-- The first token of a text that starts with no blank, and the text behind it. -/
def nextToken? (c : Char) (cs : List Char) : Option (Token × List Char) :=
  match mark? c with
  | some token => some (token, cs)
  | none =>
    if c = '\x22' then
      (readPieces cs).map fun (pieces, rest) => (.scalar (stringOfPieces pieces), rest)
    else if isNumberChar c && c != 'e' && c != 'E' then
      (numberOfLiteral? (c :: cs.takeWhile isNumberChar)).map fun n =>
        (.scalar (num n), cs.dropWhile isNumberChar)
    else
      (word? (c :: cs.takeWhile Char.isAlpha)).map fun v =>
        (.scalar v, cs.dropWhile Char.isAlpha)

/-- All tokens of a text, with one unit of `fuel` for each character. -/
def tokensWithin : (fuel : Nat) → List Char → Option (List Token)
  | _, [] => some []
  | 0, _ :: _ => none
  | fuel + 1, c :: cs =>
    if isSpace c then tokensWithin fuel cs
    else do
      let (token, rest) ← nextToken? c cs
      let tokens ← tokensWithin fuel rest
      some (token :: tokens)

def tokens? (cs : List Char) : Option (List Token) := tokensWithin cs.length cs

end TradeTracker.Json

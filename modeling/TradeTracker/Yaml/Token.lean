import TradeTracker.Text.Lines
import TradeTracker.Yaml.Scalar
import TradeTracker.Yaml.Tag

/-! The tokens of a YAML file. A key is known as one only when its colon is met, so its token is put
in later, in front of the tokens of the key. -/
namespace TradeTracker.Yaml

inductive Token
  | blockSequence
  | blockMapping
  | blockEnd
  | flowSequence
  | flowSequenceEnd
  | flowMapping
  | flowMappingEnd
  | blockEntry
  | flowEntry
  | key
  | value
  | reference (name : String)
  | anchor (name : String)
  /-- The name of a standard tag; others have none. -/
  | tag (standard : Option String)
  /-- Plain scalars may be something else than text. -/
  | scalar (plain : Bool) (text : String)
  | documentStart
  | documentEnd
  | directive
deriving DecidableEq, Repr

structure KeyStart where
  /-- Whether it has to be a key. -/
  required : Bool
  token : Nat
  index : Nat
  line : Nat
  column : Nat
deriving Repr

structure Scan where
  cursor : Cursor
  tokens : List Token
  /-- Whether a key may start here. -/
  keyAllowed : Bool
  /-- For every open bracket, the innermost first, and at last for none, where a key may have
  started. -/
  keys : List (Option KeyStart)
  /-- The columns of the open collections, the innermost first. -/
  indents : List Int
  /-- Where a quoted scalar ended last. -/
  quotedEnd : Nat

namespace Scan

/-- The column of the innermost collection, or -1. -/
def indent (s : Scan) : Int := s.indents.headD (-1)

def inFlow (s : Scan) : Bool := 1 < s.keys.length

def maxFlow : Nat := 255

def push (token : Token) (s : Scan) : Scan := { s with tokens := s.tokens ++ [token] }

def allow (keyAllowed : Bool) (s : Scan) : Scan := { s with keyAllowed := keyAllowed }

def skipBlanks : (fuel : Nat) → Scan → Scan
  | 0, s => s
  | fuel + 1, s =>
    match s.cursor.rest with
    | [] => s
    | c :: _ =>
      if c = ' ' ∨ (c = '\t' ∧ (s.inFlow ∨ ! s.keyAllowed)) then
        skipBlanks fuel { s with cursor := s.cursor.skip }
      else if isBreak c then
        skipBlanks fuel { s with cursor := s.cursor.skip, keyAllowed := s.keyAllowed || ! s.inFlow }
      else if c = '#' then
        skipBlanks fuel { s with cursor := s.cursor.skipWhile (! isBreak ·) }
      else s

/-- How far behind the start of a key its colon may stand, on the same line. -/
def maxKey : Nat := 1024

def isStale (c : Cursor) (k : KeyStart) : Bool := k.line < c.line || k.index + maxKey < c.index

def dropStale (s : Scan) : Option Scan :=
  if s.keys.any fun key => key.any fun k => k.required && isStale s.cursor k then none
  else some { s with keys := s.keys.map fun key => key.filter (! isStale s.cursor ·) }

def unroll (column : Int) (s : Scan) : Scan :=
  if s.inFlow then s
  else
    let closed := s.indents.takeWhile (column < ·)
    { s with
      tokens := s.tokens ++ closed.map fun _ => .blockEnd
      indents := s.indents.drop closed.length }

/-- Opens a collection at a column if it is right of the innermost one; its token has the given
number. -/
def roll (column : Nat) (number : Nat) (token : Token) (s : Scan) : Scan :=
  if ! s.inFlow ∧ s.indent < column then
    { s with
      tokens := s.tokens.take number ++ token :: s.tokens.drop number
      indents := (column : Int) :: s.indents }
  else s

def dropKey (s : Scan) : Option Scan :=
  if s.keys.head?.join.any (·.required) then none
  else some { s with keys := none :: s.keys.tail }

def startKey (s : Scan) : Option Scan :=
  if s.keyAllowed then
    s.dropKey.map fun s =>
      let c := s.cursor
      let required := s.inFlow && s.indent == (c.column : Int)
      { s with keys := some ⟨required, s.tokens.length, c.index, c.line, c.column⟩ :: s.keys.tail }
  else some s

def mark (token : Token) (length : Nat) (s : Scan) : Scan :=
  { s.push token with cursor := s.cursor.advance length }

def boundary (token : Token) (s : Scan) : Option Scan :=
  (s.unroll (-1)).dropKey.map fun s => (s.allow false).mark token 3

/-- A directive with the end of its line, which no key may follow at once. -/
def directive (s : Scan) : Option Scan := do
  let s ← (s.unroll (-1)).dropKey
  let rest ← afterDirective? s.cursor.rest.tail
  let c := (s.cursor.advance (s.cursor.rest.length - rest.length)).skip
  some { (s.allow false).push .directive with cursor := c }

def openBracket (token : Token) (s : Scan) : Option Scan :=
  if maxFlow < s.keys.length then none
  else
    s.startKey.map fun s => { (s.allow true).mark token 1 with keys := none :: s.keys }

def closeBracket (token : Token) (s : Scan) : Option Scan :=
  s.dropKey.map fun s =>
    { (s.allow false).mark token 1 with keys := if s.inFlow then s.keys.tail else s.keys }

def flowEntry (s : Scan) : Option Scan := s.dropKey.map fun s => (s.allow true).mark .flowEntry 1

def blockEntry (s : Scan) : Option Scan :=
  if s.inFlow ∨ ! s.keyAllowed then none
  else
    (s.roll s.cursor.column s.tokens.length .blockSequence).dropKey.map fun s =>
      (s.allow true).mark .blockEntry 1

def keyMark (s : Scan) : Option Scan :=
  if s.inFlow then s.dropKey.map fun s => (s.allow false).mark .key 1
  else if s.keyAllowed then
    (s.roll s.cursor.column s.tokens.length .blockMapping).dropKey.map fun s =>
      (s.allow true).mark .key 1
  else none

def valueMark (s : Scan) : Option Scan :=
  match s.keys.head?.join with
  | some k =>
    let tokens := s.tokens.take k.token ++ .key :: s.tokens.drop k.token
    let s := { s with tokens := tokens, keys := none :: s.keys.tail }
    some (((s.roll k.column k.token .blockMapping).allow false).mark .value 1)
  | none =>
    if s.inFlow then some ((s.allow false).mark .value 1)
    else if s.keyAllowed then
      some (((s.roll s.cursor.column s.tokens.length .blockMapping).allow true).mark .value 1)
    else none

def named (token : String → Token) (s : Scan) : Option Scan := do
  let s ← s.startKey
  let name := s.cursor.rest.tail.takeWhile isNameChar
  let rest := s.cursor.rest.drop (name.length + 1)
  if name ≠ [] ∧ (endsWord rest ∨ rest.head?.any fun c => "?:,]\x7d%@\x60".toList.contains c) then
    some ((s.allow false).mark (token (String.ofList name)) (name.length + 1))
  else none

def tag (s : Scan) : Option Scan := do
  let s ← s.startKey
  let (standard, rest) ← tag? s.cursor.rest
  if endsWord rest then
    some ((s.allow false).mark (.tag standard) (s.cursor.rest.length - rest.length))
  else none

def moveTo (c : Cursor) (s : Scan) : Scan := { s with cursor := c }

def block (folded : Bool) (s : Scan) : Option Scan := do
  let s ← s.startKey
  let (text, c) ← block? folded s.indent s.cursor
  some (((s.allow true).push (.scalar false text)).moveTo c)

def quoted (quote : Char) (s : Scan) : Option Scan := do
  let s ← s.startKey
  let (text, c) ← quoted? quote s.cursor
  some { ((s.allow false).push (.scalar false text)).moveTo c with quotedEnd := c.index }

def plain (s : Scan) : Option Scan := do
  let s ← s.startKey
  let (text, c, broken) ← plain? s.inFlow (s.indent + 1) s.cursor
  some (((s.allow broken).push (.scalar true text)).moveTo c)

def step (c : Char) (rest : List Char) (s : Scan) : Option Scan :=
  if s.cursor.column = 0 ∧ c = '%' then s.directive
  else if s.cursor.startsMark '-' then s.boundary .documentStart
  else if s.cursor.startsMark '.' then s.boundary .documentEnd
  else if c = '[' then s.openBracket .flowSequence
  else if c = '\x7b' then s.openBracket .flowMapping
  else if c = ']' then s.closeBracket .flowSequenceEnd
  else if c = '\x7d' then s.closeBracket .flowMappingEnd
  else if c = ',' then s.flowEntry
  else if c = '-' ∧ endsWord rest then s.blockEntry
  else if c = '?' ∧ endsWord rest then s.keyMark
  else if c = ':' ∧
      (endsWord rest ∨ (s.inFlow ∧ (rest.head?.any isFlow ∨ s.cursor.index = s.quotedEnd))) then
    s.valueMark
  else if c = '*' then s.named .reference
  else if c = '&' then s.named .anchor
  else if c = '!' then s.tag
  else if c = '|' ∧ ! s.inFlow then s.block false
  else if c = '>' ∧ ! s.inFlow then s.block true
  else if c = '\x27' ∨ c = '\x22' then s.quoted c
  else if c = '%' ∨ c = '@' ∨ c = '\x60' then none
  else s.plain

/-- All tokens from here on, with one unit of `fuel` for each. At the end every collection is
closed. -/
def run : (fuel : Nat) → Scan → Option (List Token)
  | 0, _ => none
  | fuel + 1, s => do
    let s ← (s.skipBlanks (s.cursor.rest.length + 1)).dropStale
    let s := s.unroll s.cursor.column
    match s.cursor.rest with
    | [] => (s.unroll (-1)).dropKey.map (·.tokens)
    | c :: rest => run fuel (← s.step c rest)

def start (cs : List Char) : Scan := ⟨⟨cs, 0, 0, 0⟩, [], true, [none], [], cs.length + 1⟩

end Scan

/-- All tokens of a text, which ends at the first null character. -/
def tokens? (text : String) : Option (List Token) :=
  let cs := Text.foldLineEnds (text.toList.takeWhile (· != '\x00'))
  (Scan.start cs).run (cs.length + 2)

end TradeTracker.Yaml

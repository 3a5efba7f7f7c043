import TradeTracker.Text.Code

/-! The scalars of a YAML file: plain ones, quoted ones and blocks of lines. Line ends inside a
plain or quoted one are folded: a single one is a space, and of several the first goes. -/
namespace TradeTracker.Yaml

/-- A place in a text. Only line feeds start a line, though carriage returns end one too. -/
structure Cursor where
  rest : List Char
  index : Nat
  line : Nat
  column : Nat
deriving Repr

def isBreak (c : Char) : Bool := c == '\n' || c == '\r'

def isBlank (c : Char) : Bool := c == ' ' || c == '\t'

def isFlow (c : Char) : Bool :=
  c == ',' || c == '[' || c == ']' || c == '\x7b' || c == '\x7d'

def endsWord (cs : List Char) : Bool := (cs.head?.map fun c => isBlank c || isBreak c).getD true

namespace Cursor

def skip (c : Cursor) : Cursor :=
  match c.rest with
  | [] => c
  | d :: rest =>
    if d = '\n' then ⟨rest, c.index + 1, c.line + 1, 0⟩
    else ⟨rest, c.index + 1, c.line, c.column + 1⟩

def advance (c : Cursor) (count : Nat) : Cursor :=
  ⟨c.rest.drop count, c.index + count, c.line, c.column + count⟩

def skipWhile (p : Char → Bool) (c : Cursor) : Cursor := c.advance (c.rest.takeWhile p).length

def startsMark (mark : Char) (c : Cursor) : Bool :=
  c.column == 0 && c.rest.take 3 == [mark, mark, mark] && endsWord (c.rest.drop 3)

def startsDocument (c : Cursor) : Bool := c.startsMark '-' || c.startsMark '.'

end Cursor

structure Gap where
  blanks : List Char
  /-- Whether the words are on different lines. -/
  broken : Bool
  /-- Whether the first line end counts, and how many follow it. -/
  first : Bool
  more : Nat
deriving Repr

namespace Gap

def none : Gap := ⟨[], false, false, 0⟩

def text (g : Gap) : List Char :=
  if ! g.broken then g.blanks
  else if g.first && g.more == 0 then [' ']
  else List.replicate g.more '\n'

/-- The gap with all blanks and line ends at the cursor. A tab in front of column `indent` of a new
line is refused. -/
def extend (indent : Int) : (fuel : Nat) → Cursor → Gap → Option (Cursor × Gap)
  | 0, c, g => some (c, g)
  | fuel + 1, c, g =>
    match c.rest with
    | [] => some (c, g)
    | d :: _ =>
      if isBlank d then
        if g.broken then
          if d = '\t' ∧ c.column < indent then Option.none else extend indent fuel c.skip g
        else extend indent fuel c.skip { g with blanks := g.blanks ++ [d] }
      else if isBreak d then
        if g.broken then extend indent fuel c.skip { g with more := g.more + 1 }
        else extend indent fuel c.skip { g with blanks := [], broken := true, first := true }
      else some (c, g)

end Gap

/-- The next word of a plain scalar. A colon at the end of a word is no part of it. -/
def plainWord (inFlow : Bool) : List Char → List Char
  | [] => []
  | c :: cs =>
    if isBlank c || isBreak c then []
    else if c == ':' && (endsWord cs || (inFlow && cs.head?.any isFlow)) then []
    else if inFlow && isFlow c then []
    else c :: plainWord inFlow cs

/-- The words of a plain scalar from the cursor on, behind a gap, and whether the line ended behind
them. Outside of brackets they do not stand left of `indent`. -/
def plainWithin (inFlow : Bool) (indent : Int) : (fuel : Nat) → Cursor → Gap →
    Option (List Char × Cursor × Bool)
  | 0, _, _ => none
  | fuel + 1, c, g =>
    if c.startsDocument || c.rest.head? == some '#' then some ([], c, g.broken)
    else
      let word := plainWord inFlow c.rest
      let front := if word = [] then [] else g.text ++ word
      let behind := if word = [] then g else Gap.none
      let next := c.advance word.length
      if next.rest = [] ∨ ! endsWord next.rest then some (front, next, behind.broken)
      else
        match Gap.extend indent next.rest.length next behind with
        | none => none
        | some (next, gap) =>
          if ! inFlow ∧ next.column < indent then some (front, next, gap.broken)
          else
            (plainWithin inFlow indent fuel next gap).map fun (text, c, broken) =>
              (front ++ text, c, broken)

def plain? (inFlow : Bool) (indent : Int) (c : Cursor) : Option (String × Cursor × Bool) :=
  (plainWithin inFlow indent (c.rest.length + 1) c Gap.none).map fun (text, c, broken) =>
    (String.ofList text, c, broken)

def shortEscapes : List (Char × Char) :=
  [('0', '\x00'), ('a', '\x07'), ('b', '\x08'), ('t', '\t'), ('\t', '\t'), ('n', '\n'),
    ('v', '\x0b'), ('f', '\x0c'), ('r', '\r'), ('e', '\x1b'), (' ', ' '), ('\x22', '\x22'),
    ('\x27', '\x27'), ('\x5c', '\x5c'), ('N', '\u0085'), ('_', '\u00a0'), ('L', '\u2028'),
    ('P', '\u2029')]

def codeLength? (c : Char) : Option Nat := [('x', 2), ('u', 4), ('U', 8)].lookup c

def escape? : List Char → Option (Char × Nat)
  | [] => none
  | c :: cs =>
    match codeLength? c with
    | some length =>
      let digits := cs.take length
      if digits.length < length then none
      else (Text.charOfHex? digits).map (·, length + 1)
    | none => (shortEscapes.lookup c).map (·, 1)

/-- The next word of a quoted scalar, with one unit of `fuel` for each character of it: the text and
the length of the word, and whether a backslash in front of a line end follows. -/
def quotedWord (quote : Char) : (fuel : Nat) → List Char → Option (List Char × Nat × Bool)
  | 0, _ => some ([], 0, false)
  | _, [] => some ([], 0, false)
  | fuel + 1, c :: cs =>
    if isBlank c || isBreak c then some ([], 0, false)
    else if c = quote then
      if quote = '\x27' ∧ cs.head? = some '\x27' then
        (quotedWord quote fuel cs.tail).map fun (text, length, continued) =>
          (c :: text, length + 2, continued)
      else some ([], 0, false)
    else if c = '\x5c' ∧ quote = '\x22' then
      if cs.head?.any isBreak then some ([], 0, true)
      else
        match escape? cs with
        | none => none
        | some (first, size) =>
          (quotedWord quote fuel (cs.drop size)).map fun (text, length, continued) =>
            (first :: text, length + size + 1, continued)
    else
      (quotedWord quote fuel cs).map fun (text, length, continued) =>
        (c :: text, length + 1, continued)

def quotedWithin (quote : Char) : (fuel : Nat) → Cursor → Option (List Char × Cursor)
  | 0, _ => none
  | fuel + 1, c =>
    if c.startsDocument ∨ c.rest = [] then none
    else
      match quotedWord quote c.rest.length c.rest with
      | none => none
      | some (word, length, continued) =>
        let next := c.advance length
        let next := if continued then next.skip.skip else next
        if next.rest.head? = some quote then some (word, next.skip)
        else
          match Gap.extend 0 next.rest.length next { Gap.none with broken := continued } with
          | none => none
          | some (next, gap) =>
            (quotedWithin quote fuel next).map fun (text, c) => (word ++ gap.text ++ text, c)

def quoted? (quote : Char) (c : Cursor) : Option (String × Cursor) :=
  (quotedWithin quote (c.rest.length + 1) c.skip).map fun (text, c) => (String.ofList text, c)

inductive Chomping
  | clip
  | strip
  | keep
deriving DecidableEq, Repr

def Chomping.ofMark? (c : Char) : Option Chomping := [('+', keep), ('-', strip)].lookup c

/-- The indentation that a digit says; zero says none. -/
def increment? (c : Char) : Option Nat := if c.isDigit ∧ c ≠ '0' then some (c.toNat - 48) else none

def blockMarks (cs : List Char) : Chomping × Nat × List Char :=
  match cs with
  | [] => (.clip, 0, [])
  | a :: rest =>
    match Chomping.ofMark? a, increment? a with
    | some chomping, _ =>
      match rest.head?.bind increment? with
      | some n => (chomping, n, rest.tail)
      | none => (chomping, 0, rest)
    | none, some n =>
      match rest.head?.bind Chomping.ofMark? with
      | some chomping => (chomping, n, rest.tail)
      | none => (.clip, n, rest)
    | none, none => (.clip, 0, cs)

/-- Empty lines and the indentation behind them, as far as `indent`, or as far as it goes where that
is zero: the cursor behind it, how deep the deepest line is, and how many lines ended. -/
def emptyLines (indent : Nat) : (fuel : Nat) → Cursor → (deepest ended : Nat) →
    Option (Cursor × Nat × Nat)
  | 0, c, deepest, ended => some (c, deepest, ended)
  | fuel + 1, c, deepest, ended =>
    let spaces := (c.rest.takeWhile (· == ' ')).length
    let c := c.advance (if indent = 0 then spaces else min spaces (indent - c.column))
    let deepest := max deepest c.column
    if (indent = 0 ∨ c.column < indent) ∧ c.rest.head? = some '\t' then none
    else if c.rest.head?.any isBreak then emptyLines indent fuel c.skip deepest (ended + 1)
    else some (c, deepest, ended)

/-- The lines of a block from the cursor on, behind `ended` line ends of which the first is `first`.
The text, the cursor behind it, and the line ends that are left. -/
def blockLines (folded : Bool) (indent : Nat) : (fuel : Nat) → Cursor → (first afterBlank : Bool) →
    (ended : Nat) → Option (List Char × Cursor × Bool × Nat)
  | 0, _, _, _, _ => none
  | fuel + 1, c, first, afterBlank, ended =>
    if c.column ≠ indent ∨ c.rest = [] then some ([], c, first, ended)
    else
      let startsBlank := c.rest.head?.any isBlank
      let joint :=
        if folded ∧ first ∧ ! afterBlank ∧ ! startsBlank then
          if ended = 0 then [' '] else []
        else if first then ['\n'] else []
      let line := c.rest.takeWhile (! isBreak ·)
      let front := joint ++ List.replicate ended '\n' ++ line
      let next := c.advance line.length
      if next.rest = [] then some (front, next, false, 0)
      else
        match emptyLines indent next.rest.length next.skip 0 0 with
        | none => none
        | some (next, _, ended) =>
          (blockLines folded indent fuel next true startsBlank ended).map fun (text, state) =>
            (front ++ text, state)

def block? (folded : Bool) (parent : Int) (c : Cursor) : Option (String × Cursor) := do
  let c := c.skip
  let (chomping, increment, rest) := blockMarks c.rest
  let c := (c.advance (c.rest.length - rest.length)).skipWhile isBlank
  let c := if c.rest.head? = some '#' then c.skipWhile (! isBreak ·) else c
  if ! (c.rest.head?.map isBreak).getD true then none
  else
    let given := if increment = 0 then 0 else (max parent 0).toNat + increment
    let (c, deepest, ended) ← emptyLines given c.rest.length c.skip 0 0
    let indent := if given = 0 then max (max deepest (parent + 1).toNat) 1 else given
    let (text, c, first, ended) ← blockLines folded indent (c.rest.length + 1) c false false ended
    let tail := match chomping with
      | .strip => []
      | .clip => if first then ['\n'] else []
      | .keep => (if first then ['\n'] else []) ++ List.replicate ended '\n'
    some (String.ofList (text ++ tail), c)

end TradeTracker.Yaml

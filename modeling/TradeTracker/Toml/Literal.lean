import TradeTracker.Settings.Tree
import TradeTracker.Text.Code

/-! The keys, texts, numbers and dates of a TOML file. -/
namespace TradeTracker.Toml

def isBare (c : Char) : Bool := c.isAlphanum || c == '_' || c == '-'

def isBlank (c : Char) : Bool := c == ' ' || c == '\t'

def skipBlanks (cs : List Char) : List Char := cs.dropWhile isBlank

/-- Text may hold tabs but no other control characters. -/
def isTextChar (c : Char) : Bool := c == '\t' || (32 ≤ c.toNat && c.toNat != 127)

def shortEscape? (c : Char) : Option Char :=
  if c = '\x22' ∨ c = '\x5c' then some c
  else if c = 'b' then some '\x08'
  else if c = 'f' then some '\x0c'
  else if c = 'n' then some '\n'
  else if c = 'r' then some '\r'
  else if c = 't' then some '\t'
  else none

def readBasic : List Char → Option (List Char × List Char)
  | [] => none
  | '\x22' :: rest => some ([], rest)
  | '\x5c' :: 'u' :: a :: b :: c :: d :: rest => do
    let first ← Text.charOfHex? [a, b, c, d]
    let (text, rest) ← readBasic rest
    some (first :: text, rest)
  | '\x5c' :: 'U' :: a :: b :: c :: d :: e :: f :: g :: h :: rest => do
    let first ← Text.charOfHex? [a, b, c, d, e, f, g, h]
    let (text, rest) ← readBasic rest
    some (first :: text, rest)
  | '\x5c' :: c :: rest => do
    let first ← shortEscape? c
    let (text, rest) ← readBasic rest
    some (first :: text, rest)
  | c :: rest =>
    if isTextChar c then do
      let (text, rest) ← readBasic rest
      some (c :: text, rest)
    else none

def readVerbatim : List Char → Option (List Char × List Char)
  | [] => none
  | '\x27' :: rest => some ([], rest)
  | c :: rest =>
    if isTextChar c then do
      let (text, rest) ← readVerbatim rest
      some (c :: text, rest)
    else none

/-- A text at the front that stands on one line, if a quote opens one. Three quotes in a row open
none. -/
def quoted? : List Char → Option (String × List Char)
  | '\x22' :: '\x22' :: '\x22' :: _ => none
  | '\x27' :: '\x27' :: '\x27' :: _ => none
  | '\x22' :: cs => (readBasic cs).map fun (text, rest) => (String.ofList text, rest)
  | '\x27' :: cs => (readVerbatim cs).map fun (text, rest) => (String.ofList text, rest)
  | _ => none

/-- The end of a text over several lines, behind the first quote of a run of them: up to two of them
stand before the closing three and belong to the text. What is not the end is a part of the text. -/
def closing? (quote : Char) (cs : List Char) : Option (List Char × List Char) :=
  let more := (cs.takeWhile (· == quote)).length
  if more < 2 then none else some (List.replicate (min more 4 - 2) quote, cs.drop (min more 4))

/-- What is left behind a backslash that ends a line: blanks up to the line end, then all blanks and
line ends. -/
def skipLineEnd? (cs : List Char) : Option (List Char) :=
  let skip := fun (cs : List Char) => cs.dropWhile fun c => isBlank c || c == '\n'
  match cs with
  | '\n' :: rest => some (skip rest)
  | c :: rest =>
    if isBlank c then
      match skipBlanks rest with
      | '\n' :: rest => some (skip rest)
      | [] => some []
      | _ => none
    else none
  | [] => none

def escape? : List Char → Option (Char × List Char)
  | 'u' :: a :: b :: c :: d :: rest => (Text.charOfHex? [a, b, c, d]).map (·, rest)
  | 'U' :: a :: b :: c :: d :: e :: f :: g :: h :: rest =>
    (Text.charOfHex? [a, b, c, d, e, f, g, h]).map (·, rest)
  | c :: rest => (shortEscape? c).map (·, rest)
  | [] => none

/-- A text over several lines up to its closing quotes, with one unit of `fuel` for each character.
Only a text in double quotes knows escapes. -/
def linesOfText (quote : Char) : (fuel : Nat) → List Char → Option (List Char × List Char)
  | 0, _ => none
  | _, [] => none
  | fuel + 1, c :: cs =>
    if c = quote then
      match closing? quote cs with
      | some end_ => some end_
      | none => (linesOfText quote fuel cs).map fun (text, rest) => (c :: text, rest)
    else if c = '\x5c' ∧ quote = '\x22' then
      match skipLineEnd? cs with
      | some rest => linesOfText quote fuel rest
      | none => do
        let (first, rest) ← escape? cs
        let (text, rest) ← linesOfText quote fuel rest
        some (first :: text, rest)
    else if c = '\n' ∨ isTextChar c then
      (linesOfText quote fuel cs).map fun (text, rest) => (c :: text, rest)
    else none

/-- A text at the front, on one line or on several ones; the first line end of the latter does not
count. -/
def text? : List Char → Option (String × List Char)
  | a :: b :: c :: cs =>
    if a = b ∧ b = c ∧ (a = '\x22' ∨ a = '\x27') then
      let cs := if cs.head? = some '\n' then cs.tail else cs
      (linesOfText a (cs.length + 1) cs).map fun (text, rest) => (String.ofList text, rest)
    else quoted? (a :: b :: c :: cs)
  | cs => quoted? cs

def key? (cs : List Char) : Option (String × List Char) :=
  let bare := cs.takeWhile isBare
  if bare = [] then quoted? cs else some (String.ofList bare, cs.dropWhile isBare)

def keysWithin : (fuel : Nat) → List Char → Option (List String × List Char)
  | 0, _ => none
  | fuel + 1, cs => do
    let (first, rest) ← key? (skipBlanks cs)
    match skipBlanks rest with
    | '.' :: rest =>
      let (more, rest) ← keysWithin fuel rest
      some (first :: more, rest)
    | rest => some ([first], rest)

def keys? (cs : List Char) : Option (List String × List Char) := keysWithin (cs.length + 1) cs

/-- No two underscores side by side, none at either end, and at least one digit. -/
def wellSpaced : List Char → Bool
  | [] => false
  | [c] => c != '_'
  | '_' :: _ => false
  | _ :: '_' :: rest => wellSpaced rest
  | _ :: rest => wellSpaced rest

/-- A run of digits at the front, underscores taken away, with its sign if one may stand there, and
what is behind it. A superfluous zero in front is refused unless `zeros` allows it. -/
def digitRun? (signed zeros : Bool) (cs : List Char) : Option (List Char × List Char) :=
  let hasSign := signed && (cs.head? == some '-' || cs.head? == some '+')
  let body := if hasSign then cs.tail else cs
  let run := body.takeWhile fun c => c.isDigit || c == '_'
  let digits := run.filter (· != '_')
  if wellSpaced run ∧ (zeros ∨ digits.head? ≠ some '0' ∨ digits.length = 1) then
    some (if hasSign then cs.take 1 ++ digits else digits, body.drop run.length)
  else none

/-- The power of ten behind a number: nothing, or a mark with digits behind it. A plus sign ends a
bare run of characters, so what follows it is looked up in `rest`. -/
def power? (suffix rest : List Char) : Option (List Char × List Char) :=
  match suffix with
  | [] => some ([], rest)
  | [c] =>
    if Binary64.isPowerMark c ∧ rest.head? = some '+' then
      match digitRun? false true (rest.tail.takeWhile isBare) with
      | some (digits, []) => some ('e' :: digits, rest.tail.dropWhile isBare)
      | _ => none
    else none
  | c :: cs =>
    if Binary64.isPowerMark c then
      match digitRun? true true cs with
      | some (digits, []) => some ('e' :: digits, rest)
      | _ => none
    else none

def float? (before : List Char) (after : Option (List Char)) (rest : List Char) :
    Option (Setting × List Char) := do
  let (whole, suffix) ← digitRun? true false before
  match after with
  | none =>
    let (power, rest) ← power? suffix rest
    some (← Setting.ofFinite? (.ofLiteral (whole ++ power)), rest)
  | some after =>
    if suffix ≠ [] then none
    else
      let (fraction, suffix) ← digitRun? false true after
      let (power, rest) ← power? suffix rest
      some (← Setting.ofFinite? (.ofLiteral (whole ++ '.' :: fraction ++ power)), rest)

/-- A whole number in a base with a mark of its own; zeros in front are allowed. -/
def based? (base : Nat) (cs : List Char) : Option Setting := do
  if wellSpaced cs then Setting.ofInt? (← Text.ofDigits? base (cs.filter (· != '_'))) else none

def decimal? (cs : List Char) : Option Setting :=
  match digitRun? true false cs with
  | some (digits, []) =>
    let (negative, magnitude) := Binary64.splitSign digits
    Setting.ofInt?
      (if negative then - (Text.digitsValue magnitude : Int) else Text.digitsValue magnitude)
  | _ => none

def words : List (String × Binary64) :=
  [("inf", .infinite false), ("-inf", .infinite true), ("nan", .notANumber),
    ("-nan", .notANumber)]

def number? (cs rest : List Char) : Option (Setting × List Char) :=
  match cs with
  | '0' :: 'x' :: digits => (based? 16 digits).map (·, rest)
  | '0' :: 'o' :: digits => (based? 8 digits).map (·, rest)
  | '0' :: 'b' :: digits => (based? 2 digits).map (·, rest)
  | _ =>
    if cs.any Binary64.isPowerMark then float? cs none rest
    else
      match rest with
      | '.' :: rest => float? cs (some (rest.takeWhile isBare)) (rest.dropWhile isBare)
      | _ =>
        match words.lookup (String.ofList cs) with
        | some value => some (.float value, rest)
        | none => (decimal? cs).map (·, rest)

def part? (mark : Char) (cs : List Char) : Option (List Char × List Char) :=
  let bare := cs.tail.takeWhile isBare
  if cs.head? = some mark ∧ bare ≠ [] then some (mark :: bare, cs.tail.dropWhile isBare) else none

def optionalPart? (mark : Char) (cs : List Char) : Option (List Char × List Char) :=
  if cs.head? = some mark then part? mark cs else some ([], cs)

def isDate (cs rest : List Char) : Bool :=
  let joined := fun (mark : Char) => (cs.zip cs.tail).contains (mark, '-')
  cs.contains 'T' || cs.contains 't' ||
    (cs.tail.contains '-' && !joined 'e' && !joined 'E') || rest.head? == some ':'

/-- The characters of a date or time that starts with the bare characters `cs`. One space may stand
before the hour. -/
def date? (cs rest : List Char) : Option (List Char × List Char) := do
  let (hour, rest) := (part? ' ' rest).getD ([], rest)
  if rest.head? = some ':' then
    let (minute, rest) ← part? ':' rest
    let (second, rest) ← part? ':' rest
    let (fraction, rest) ← optionalPart? '.' rest
    let (offset, rest) ← optionalPart? '+' rest
    let (minutes, rest) ← optionalPart? ':' rest
    some (cs ++ hour ++ minute ++ second ++ fraction ++ offset ++ minutes, rest)
  else some (cs ++ hour, rest)

/-- A value that is no list and no table. A date is kept as it is written. -/
inductive Scalar
  | plain (value : Setting)
  | date (text : List Char)
deriving Repr

def bareValue? (cs : List Char) : Option (Scalar × List Char) :=
  let bare := cs.takeWhile isBare
  let rest := cs.dropWhile isBare
  if bare = "true".toList then some (.plain (.flag true), rest)
  else if bare = "false".toList then some (.plain (.flag false), rest)
  else if bare = "inf".toList ∨ bare = "nan".toList ∨
      bare.head?.any (fun c => c == '-' || c.isDigit) then
    if isDate bare rest then (date? bare rest).map fun (text, rest) => (.date text, rest)
    else (number? bare rest).map fun (value, rest) => (.plain value, rest)
  else none

def scalar? : List Char → Option (Scalar × List Char)
  | '+' :: cs =>
    let bare := cs.takeWhile isBare
    if bare = [] then none
    else (number? bare (cs.dropWhile isBare)).map fun (value, rest) => (.plain value, rest)
  | cs =>
    if cs.head? = some '\x22' ∨ cs.head? = some '\x27' then
      (text? cs).map fun (text, rest) => (.plain (.text text), rest)
    else bareValue? cs

end TradeTracker.Toml

import TradeTracker.Settings.Tree
import TradeTracker.Text.Blank
import TradeTracker.Text.Code
import TradeTracker.Text.NameCharacter

/-! Reading a JSON5 file: JSON with comments, bare keys, text in either quotes, commas in front of
closing brackets and more ways to write numbers. -/
namespace TradeTracker.Json5

def isLineEnd (c : Char) : Bool := c == '\n' || c == '\r' || c == '\u2028' || c == '\u2029'

/-- Blanks and the byte order mark; the next-line character is no blank here. -/
def isSpace (c : Char) : Bool := (Text.isBlank c && c != '\u0085') || c == '\uFEFF'

def afterComment? : List Char → Option (List Char)
  | '*' :: '/' :: rest => some rest
  | _ :: rest => afterComment? rest
  | [] => none

def skipSpace : (fuel : Nat) → List Char → List Char
  | 0, cs => cs
  | fuel + 1, cs =>
    match cs.dropWhile isSpace with
    | '/' :: '/' :: rest => skipSpace fuel (rest.dropWhile (! isLineEnd ·))
    | '/' :: '*' :: rest =>
      match afterComment? rest with
      | some rest => skipSpace fuel rest
      | none => '/' :: '*' :: rest
    | rest => rest

def skip (cs : List Char) : List Char := skipSpace (cs.length + 1) cs

def shortEscape (c : Char) : Char :=
  if c = 'b' then '\x08'
  else if c = 'f' then '\x0c'
  else if c = 'n' then '\n'
  else if c = 'r' then '\r'
  else if c = 't' then '\t'
  else if c = 'v' then '\x0b'
  else if c = '0' then '\x00'
  else c

/-- The character that two halves of a surrogate pair make. Their ten bits each are joined, and the
bit above the sixteen of the first plane is set whether it was or not. -/
def ofPair? (high low : List Char) : Option Char := do
  let high ← Text.ofDigits? 16 high
  let low ← Text.ofDigits? 16 low
  if 0xD800 ≤ high ∧ high < 0xDC00 ∧ 0xDC00 ≤ low ∧ low < 0xE000 then
    Text.charOfCode? (((high - 0xD800) * 0x400 + (low - 0xDC00)) ||| 0x10000)
  else none

/-- A character in hexadecimal digits behind a backslash and a `u`, which are gone; a surrogate pair
has a second escape. -/
def unicode? : List Char → Option (Char × List Char)
  | a :: b :: c :: d :: rest =>
    match Text.charOfHex? [a, b, c, d] with
    | some first => some (first, rest)
    | none =>
      match rest with
      | '\x5c' :: 'u' :: e :: f :: g :: h :: rest =>
        (ofPair? [a, b, c, d] [e, f, g, h]).map (·, rest)
      | _ => none
  | _ => none

def textWithin (quote : Char) : (fuel : Nat) → List Char → Option (List Char × List Char)
  | 0, _ => none
  | _, [] => none
  | fuel + 1, '\x5c' :: '\r' :: '\n' :: rest => textWithin quote fuel rest
  | fuel + 1, '\x5c' :: 'x' :: a :: b :: rest => do
    let first ← Text.charOfHex? [a, b]
    let (text, rest) ← textWithin quote fuel rest
    some (first :: text, rest)
  | fuel + 1, '\x5c' :: 'u' :: rest => do
    let (first, rest) ← unicode? rest
    let (text, rest) ← textWithin quote fuel rest
    some (first :: text, rest)
  | fuel + 1, '\x5c' :: c :: rest =>
    if isLineEnd c then textWithin quote fuel rest
    else if c = 'x' ∨ (c.isDigit ∧ c ≠ '0') then none
    else (textWithin quote fuel rest).map fun (text, rest) => (shortEscape c :: text, rest)
  | fuel + 1, c :: rest =>
    if c = quote then some ([], rest)
    else if isLineEnd c ∨ c = '\x5c' then none
    else (textWithin quote fuel rest).map fun (text, rest) => (c :: text, rest)

def readText (quote : Char) (cs : List Char) : Option (List Char × List Char) :=
  textWithin quote (cs.length + 1) cs

def startsName (c : Char) : Bool := c == '$' || c == '_' || Text.isLetter c

def isNameChar (c : Char) : Bool := startsName c || Text.isJoining c

def nameWithin : (fuel : Nat) → List Char → Option (List Char × List Char)
  | 0, cs => some ([], cs)
  | fuel + 1, '\x5c' :: 'u' :: rest => do
    let (first, rest) ← unicode? rest
    let (name, rest) ← nameWithin fuel rest
    some (first :: name, rest)
  | fuel + 1, c :: rest =>
    if isNameChar c then (nameWithin fuel rest).map fun (name, rest) => (c :: name, rest)
    else some ([], c :: rest)
  | _, [] => some ([], [])

def readName (cs : List Char) : Option (List Char × List Char) :=
  if ['\x5c', 'u'].isPrefixOf cs ∨ cs.head?.any startsName then nameWithin cs.length cs else none

def key? : List Char → Option (String × List Char)
  | [] => none
  | c :: cs =>
    let read := if c = '\x22' ∨ c = '\x27' then readText c cs else readName (c :: cs)
    read.map fun (name, rest) => (String.ofList name, rest)

def power (cs : List Char) : List Char × List Char :=
  match cs with
  | [] => ([], [])
  | mark :: rest =>
    let sign := if rest.head? = some '+' ∨ rest.head? = some '-' then rest.take 1 else []
    let digits := (rest.drop sign.length).takeWhile Char.isDigit
    if Binary64.isPowerMark mark ∧ digits ≠ [] then
      (mark :: sign ++ digits, rest.drop (sign.length + digits.length))
    else ([], cs)

/-- A number in base ten without its sign: the characters of it, whether it is whole, and what is
behind it. A whole part begins with zero only if that is all of it. -/
def decimal? (cs : List Char) : Option (List Char × Bool × List Char) :=
  let run := cs.takeWhile Char.isDigit
  let whole := if run.head? = some '0' then ['0'] else run
  match cs.drop whole.length with
  | '.' :: rest =>
    let fraction := rest.takeWhile Char.isDigit
    if whole = [] ∧ fraction = [] then none
    else
      let (power, rest) := power (rest.dropWhile Char.isDigit)
      some (whole ++ '.' :: fraction ++ power, false, rest)
  | rest =>
    if whole = [] then none
    else
      let (power, rest) := power rest
      some (whole ++ power, power = [], rest)

def words : List (String × Binary64) := [("Infinity", .infinite false), ("NaN", .notANumber)]

/-- A number at the front. Those in base sixteen have 32 bits and no sign; a plus sign stands before
no word. -/
def number? (cs : List Char) : Option (Setting × List Char) :=
  let (negative, magnitude) := Binary64.splitSign cs
  let signed := magnitude.length < cs.length
  match words.find? fun word => word.1.toList.isPrefixOf magnitude with
  | some (word, value) =>
    if signed ∧ ! negative then none
    else some (.float (if negative then value.neg else value), magnitude.drop word.length)
  | none =>
    let digits := (magnitude.drop 2).takeWhile fun c => (Text.digit? 16 c).isSome
    if (magnitude.take 2 = ['0', 'x'] ∨ magnitude.take 2 = ['0', 'X']) ∧ digits ≠ [] then
      match Text.ofDigits? 16 digits with
      | some n =>
        if signed ∨ UInt32.size ≤ n then none
        else some (.integer n, magnitude.drop (digits.length + 2))
      | none => none
    else do
      let (text, isWhole, rest) ← decimal? magnitude
      if isWhole then
        let n : Int := Text.digitsValue text
        some (← Setting.ofInt? (if negative then -n else n), rest)
      else
        let value := Binary64.ofLiteral text
        some (← Setting.ofFinite? (if negative then value.neg else value), rest)

def literals : List (String × Setting) :=
  [("null", .nothing), ("true", .flag true), ("false", .flag false)]

def scalar? : List Char → Option (Setting × List Char)
  | [] => none
  | c :: cs =>
    if c = '\x22' ∨ c = '\x27' then
      (readText c cs).map fun (text, rest) => (.text (String.ofList text), rest)
    else
      match literals.find? fun word => word.1.toList.isPrefixOf (c :: cs) with
      | some (word, value) => some (value, (c :: cs).drop word.length)
      | none => number? (c :: cs)

mutual

/-- A value at the front; the fuel bounds how deep and how long it is. -/
def valueWithin : (fuel : Nat) → List Char → Option (Setting × List Char)
  | 0, _ => none
  | fuel + 1, '[' :: cs => (itemsWithin fuel cs).map fun (items, rest) => (.list items, rest)
  | fuel + 1, '\x7b' :: cs =>
    (membersWithin fuel [] cs).map fun (entries, rest) => (.table entries, rest)
  | _ + 1, cs => scalar? cs

def itemsWithin : (fuel : Nat) → List Char → Option (List Setting × List Char)
  | 0, _ => none
  | fuel + 1, cs =>
    match skip cs with
    | ']' :: rest => some ([], rest)
    | cs =>
      match valueWithin fuel cs with
      | none => none
      | some (item, rest) =>
        match skip rest with
        | ',' :: rest =>
          (itemsWithin fuel rest).map fun (items, rest) => (item :: items, rest)
        | ']' :: rest => some ([item], rest)
        | _ => none

/-- Members up to and with the closing brace. The last of several with one key counts. -/
def membersWithin : (fuel : Nat) → List (String × Setting) → List Char →
    Option (List (String × Setting) × List Char)
  | 0, _, _ => none
  | fuel + 1, entries, cs =>
    match skip cs with
    | '\x7d' :: rest => some (entries, rest)
    | cs =>
      match key? cs with
      | none => none
      | some (key, rest) =>
        match skip rest with
        | ':' :: rest =>
          match valueWithin fuel (skip rest) with
          | none => none
          | some (value, rest) =>
            let entries := Setting.putEntry key value entries
            match skip rest with
            | ',' :: rest => membersWithin fuel entries rest
            | '\x7d' :: rest => some (entries, rest)
            | _ => none
        | _ => none

end

/-- The setting in a file, which has to be a table. -/
def parse? (text : String) : Option Setting := do
  let cs := text.toList
  match ← valueWithin (2 * cs.length + 2) (skip cs) with
  | (.table entries, rest) => if skip rest = [] then some (.table entries) else none
  | _ => none

end TradeTracker.Json5

import TradeTracker.Settings.Tree
import TradeTracker.Text.Code

/-! Reading a RON file. Structures and maps are tables, tuples and sequences are lists, and the
names of structures and variants do not count. -/
namespace TradeTracker.Ron

def isSpace (c : Char) : Bool := c == ' ' || c == '\t' || c == '\n' || c == '\r'

def startsName (c : Char) : Bool := c.isAlpha || c == '_'

def isNameChar (c : Char) : Bool := c.isAlphanum || c == '_'

/-- What is behind the end of a comment that may hold others; `depth` of them are open. -/
def afterComment? : (depth : Nat) → List Char → Option (List Char)
  | 0, cs => some cs
  | depth + 1, '*' :: '/' :: rest => afterComment? depth rest
  | depth + 1, '/' :: '*' :: rest => afterComment? (depth + 2) rest
  | depth + 1, _ :: rest => afterComment? (depth + 1) rest
  | _ + 1, [] => none

def skipSpace? : (fuel : Nat) → List Char → Option (List Char)
  | 0, cs => some cs
  | fuel + 1, cs =>
    match cs.dropWhile isSpace with
    | '/' :: '/' :: rest => skipSpace? fuel (rest.dropWhile (· != '\n'))
    | '/' :: '*' :: rest => (afterComment? 1 rest).bind (skipSpace? fuel)
    | '/' :: _ => none
    | rest => some rest

def skip? (cs : List Char) : Option (List Char) := skipSpace? (cs.length + 1) cs

def after? (mark : String) (cs : List Char) : Option (List Char) :=
  if mark.toList.isPrefixOf cs then some (cs.drop mark.length) else none

/-- A name at the front. The letter of a verbatim text is none; with a number sign it stands in
front of names of more characters. -/
def name? (cs : List Char) : Option (List Char × List Char) :=
  let isRaw := fun (c : Char) => isNameChar c || c == '.' || c == '+' || c == '-'
  match cs with
  | [] => none
  | ['r'] => none
  | 'r' :: '\x22' :: _ => none
  | 'r' :: '#' :: rest =>
    if rest.head?.any isRaw then some (rest.takeWhile isRaw, rest.dropWhile isRaw) else none
  | c :: _ => if startsName c then some (cs.takeWhile isNameChar, cs.dropWhile isNameChar) else none

/-- What is behind a certain word at the front that no longer one begins with. -/
def word? (word : String) (cs : List Char) : Option (List Char) :=
  match after? word cs with
  | some rest => if rest.head?.any isNameChar then none else some rest
  | none => none

def shortEscape? (c : Char) : Option Char :=
  if c = '\x22' ∨ c = '\x27' ∨ c = '\x5c' then some c
  else if c = 'n' then some '\n'
  else if c = 'r' then some '\r'
  else if c = 't' then some '\t'
  else if c = '0' then some '\x00'
  else none

def escape? : List Char → Option (Char × List Char)
  | 'x' :: a :: b :: rest => (Text.charOfHex? [a, b]).map (·, rest)
  | 'u' :: '\x7b' :: rest =>
    let digits := rest.takeWhile (· != '\x7d')
    if 1 ≤ digits.length ∧ digits.length ≤ 6 ∧ digits.length < rest.length then
      (Text.charOfHex? digits).map (·, rest.drop (digits.length + 1))
    else none
  | c :: rest => (shortEscape? c).map (·, rest)
  | [] => none

def textWithin : (fuel : Nat) → List Char → Option (List Char × List Char)
  | 0, _ => none
  | _, [] => none
  | fuel + 1, c :: cs =>
    if c = '\x22' then some ([], cs)
    else if c = '\x5c' then do
      let (first, rest) ← escape? cs
      let (text, rest) ← textWithin fuel rest
      some (first :: text, rest)
    else (textWithin fuel cs).map fun (text, rest) => (c :: text, rest)

def verbatim? (end_ : List Char) : List Char → Option (List Char × List Char)
  | [] => none
  | c :: cs =>
    if end_.isPrefixOf (c :: cs) then some ([], (c :: cs).drop end_.length)
    else (verbatim? end_ cs).map fun (text, rest) => (c :: text, rest)

/-- A text at the front. Behind the letter of a verbatim text, its end has as many number signs as
its beginning. -/
def text? : List Char → Option (List Char × List Char)
  | '\x22' :: cs => textWithin (cs.length + 1) cs
  | 'r' :: cs =>
    let signs := cs.takeWhile (· == '#')
    match cs.dropWhile (· == '#') with
    | '\x22' :: rest => verbatim? ('\x22' :: signs) rest
    | _ => none
  | _ => none

def character? : List Char → Option (Char × List Char)
  | '\x27' :: '\x5c' :: rest => do
    let (c, rest) ← escape? rest
    some (c, ← after? "'" rest)
  | '\x27' :: '\x27' :: _ => none
  | '\x27' :: c :: '\x27' :: rest => some (c, rest)
  | _ => none

def isFloatChar (c : Char) : Bool :=
  c.isDigit || c == 'e' || c == 'E' || c == '.' || c == '+' || c == '-'

def isIntegerChar (c : Char) : Bool := (Text.digit? 16 c).isSome || c == '_'

def floatWords : List (String × Binary64) :=
  [("inf", .infinite false), ("+inf", .infinite false), ("-inf", .infinite true),
    ("NaN", .notANumber), ("+NaN", .notANumber), ("-NaN", .notANumber)]

def float? (cs : List Char) : Option (Setting × List Char) :=
  match floatWords.findSome? fun (word, value) => (word? word cs).map (value, ·) with
  | some (value, rest) => some (.float value, rest)
  | none =>
    (Binary64.read? (cs.takeWhile isFloatChar)).map fun value =>
      (.float value, cs.dropWhile isFloatChar)

/-- A whole number without its sign; a base other than ten has a mark. -/
def magnitude? (cs : List Char) : Option (Nat × List Char) :=
  let (base, cs) := match cs with
    | '0' :: 'x' :: rest => (16, rest)
    | '0' :: 'b' :: rest => (2, rest)
    | '0' :: 'o' :: rest => (8, rest)
    | _ => (10, cs)
  let run := cs.takeWhile isIntegerChar
  if run = [] ∨ run.head? = some '_' then none
  else
    (Text.ofDigits? base (run.filter (· != '_'))).map fun n => (n, cs.dropWhile isIntegerChar)

/-- The first whole number that 128 bits without a sign do not hold. -/
def wideBound : Nat := UInt64.size * UInt64.size

/-- Whether 128 bits hold a whole number. One with a sign leaves a bit to it. -/
def isWide (signed : Bool) (n : Int) : Bool :=
  if signed then - (wideBound : Int) ≤ 2 * n && 2 * n < wideBound else n < wideBound

/-- The setting for a whole number, which is a floating-point number beyond 64 bits. -/
def ofInt (n : Int) : Setting :=
  (Setting.ofInt? n).getD (.float (.ofRatio (n < 0) n.natAbs 1))

/-- A number at the front. Where 128 bits do not hold a whole one, it is read as a floating-point
number from the start. -/
def number? (cs : List Char) : Option (Setting × List Char) :=
  let (negative, magnitude) := Binary64.splitSign cs
  let signed := magnitude.length < cs.length
  let isFloat :=
    (magnitude.takeWhile isIntegerChar).length < (magnitude.takeWhile isFloatChar).length
  match if isFloat then none else magnitude? magnitude with
  | none => float? cs
  | some (magnitude, rest) =>
    let n : Int := if negative then -magnitude else magnitude
    if isWide signed n then some (ofInt n, rest) else float? cs

def words : List (String × Setting) :=
  [("true", .flag true), ("false", .flag false), ("None", .nothing)] ++
    floatWords.map fun (word, value) => (word, .float value)

def hasNames (cs : List Char) : Bool :=
  match (skip? cs).bind name? with
  | some (_, rest) => ((skip? rest).bind List.head?) = some ':'
  | none => false

def scalar? (cs : List Char) : Option (Setting × List Char) :=
  match words.findSome? fun (word, value) => (word? word cs).map (value, ·) with
  | some found => some found
  | none =>
    match cs with
    | [] => none
    | c :: _ =>
      if c = '\x22' ∨ c = 'r' then
        (text? cs).map fun (text, rest) => (.text (String.ofList text), rest)
      else if c = '\x27' then
        (character? cs).map fun (c, rest) => (.text (String.singleton c), rest)
      else if c = '.' then float? cs
      else if c.isDigit ∨ c = '+' ∨ c = '-' then number? cs
      else none

def keyText? : Setting → Option String
  | .text key => some key
  | _ => none

/-- A key with its value. Keys that are single characters in a map are marked. -/
structure Member where
  isCharacter : Bool
  key : String
  value : Setting

/-- The table of members. The last of several with one key counts, but one with a text before one
with a character. -/
def tableOf (members : List Member) : Setting :=
  let ordered := members.filter (·.isCharacter) ++ members.filter (! ·.isCharacter)
  .table (ordered.foldl (fun entries m => Setting.putEntry m.key m.value entries) [])

mutual

/-- A value at the front; the fuel bounds how deep and how long it is. Where `bare` says so, what is
in an option may stand without parentheses. -/
def valueWithin (bare : Bool) : (fuel : Nat) → List Char → Option (Setting × List Char)
  | 0, _ => none
  | fuel + 1, cs =>
    match word? "Some" cs, after? "()" cs, name? cs with
    | some rest, _, _ => do
      match ← skip? rest with
      | '(' :: rest =>
        let (value, rest) ← valueWithin bare fuel (← skip? rest)
        some (value, ← after? ")" (← skip? rest))
      | rest => if bare then valueWithin bare fuel rest else none
    | none, some rest, _ => some (.nothing, rest)
    | none, none, some (_, rest) =>
      match scalar? cs with
      | some found => some found
      | none => do
        match ← skip? rest with
        | '(' :: rest => fieldsWithin bare fuel rest
        | rest => some (.nothing, rest)
    | none, none, none =>
      match cs with
      | '(' :: rest => fieldsWithin bare fuel rest
      | '[' :: rest => (itemsWithin bare fuel ']' rest).map fun (items, rest) => (.list items, rest)
      | '\x7b' :: rest =>
        (membersWithin bare fuel '\x7d' rest).map fun (members, rest) => (tableOf members, rest)
      | cs => scalar? cs

def fieldsWithin (bare : Bool) : (fuel : Nat) → List Char → Option (Setting × List Char)
  | 0, _ => none
  | fuel + 1, cs =>
    if hasNames cs then
      (membersWithin bare fuel ')' cs).map fun (members, rest) => (tableOf members, rest)
    else (itemsWithin bare fuel ')' cs).map fun (items, rest) => (.list items, rest)

def itemsWithin (bare : Bool) : (fuel : Nat) → (close : Char) → List Char →
    Option (List Setting × List Char)
  | 0, _, _ => none
  | fuel + 1, close, cs => do
    let cs ← skip? cs
    if cs.head? = some close then some ([], cs.tail)
    else
      let (item, rest) ← valueWithin bare fuel cs
      match ← skip? rest with
      | [] => none
      | c :: rest =>
        if c = ',' then
          (itemsWithin bare fuel close rest).map fun (items, rest) => (item :: items, rest)
        else if c = close then some ([item], rest)
        else none

/-- A key at the front, and whether it is a single character: a name in a structure, and any text in
a map. -/
def keyWithin (bare : Bool) : (fuel : Nat) → (close : Char) → List Char →
    Option (Bool × String × List Char)
  | 0, _, _ => none
  | fuel + 1, close, cs =>
    if close = ')' then (name? cs).map fun (name, rest) => (false, String.ofList name, rest)
    else if (word? "Some" cs).isSome then none
    else do
      let (key, rest) ← valueWithin bare fuel cs
      some (cs.head? == some '\x27', ← keyText? key, rest)

def membersWithin (bare : Bool) : (fuel : Nat) → (close : Char) → List Char →
    Option (List Member × List Char)
  | 0, _, _ => none
  | fuel + 1, close, cs => do
    let cs ← skip? cs
    if cs.head? = some close then some ([], cs.tail)
    else
      let (isCharacter, key, rest) ← keyWithin bare fuel close cs
      let (value, rest) ← valueWithin bare fuel (← skip? (← after? ":" (← skip? rest)))
      let member := ⟨isCharacter, key, value⟩
      match ← skip? rest with
      | [] => none
      | c :: rest =>
        if c = ',' then
          (membersWithin bare fuel close rest).map fun (members, rest) => (member :: members, rest)
        else if c = close then some ([member], rest)
        else none

end

/-- The extension with which an option may stand without parentheses. -/
def bareOptions : String := "implicit_some"

def extensions : List String := ["unwrap_newtypes", bareOptions]

def extensionsWithin : (fuel : Nat) → List Char → Option (List String × List Char)
  | 0, _ => none
  | fuel + 1, cs => do
    let (name, rest) ← name? cs
    let name := String.ofList name
    if name ∈ extensions then
      let rest ← skip? rest
      let next ← if rest.head? = some ',' then skip? rest.tail else some rest
      if rest.head? = some ',' ∧ next.head?.any isNameChar then
        let (names, rest) ← extensionsWithin fuel next
        some (name :: names, rest)
      else some ([name], ← after? ")" next)
    else none

/-- The extensions that attributes at the front of a file ask for, with one unit of `fuel` for each
attribute. -/
def attributesWithin : (fuel : Nat) → List Char → Option (List String × List Char)
  | 0, cs => some ([], cs)
  | fuel + 1, cs => do
    let cs ← skip? cs
    if cs.head? = some '#' then
      let marks := ["#", "!", "[", "enable", "("]
      let rest ← marks.foldlM (fun rest mark => do after? mark (← skip? rest)) cs
      let (names, rest) ← extensionsWithin (rest.length + 1) (← skip? rest)
      let (more, rest) ← attributesWithin fuel (← after? "]" (← skip? rest))
      some (names ++ more, rest)
    else some ([], cs)

def parse? (text : String) : Option Setting := do
  let (names, cs) ← attributesWithin (text.length + 1) text.toList
  let (value, rest) ← valueWithin (names.contains bareOptions) (4 * cs.length + 4) cs
  if (← skip? rest) = [] then some value else none

end TradeTracker.Ron

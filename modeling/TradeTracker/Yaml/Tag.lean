import TradeTracker.Text.Code
import TradeTracker.Yaml.Scalar

/-! The tags of a YAML file and the directives in front of its documents. A tag is a handle and an
address behind it, or an address in angle brackets; only the standard handle, of two marks, gives
its address a meaning. -/
namespace TradeTracker.Yaml

def isNameChar (c : Char) : Bool := c.isAlphanum || c == '_' || c == '-'

def isAddressChar (c : Char) : Bool := isNameChar c || ";/?:@&=+$,.!~*'()[]".toList.contains c

def octet? : List Char → Option (Nat × List Char)
  | '%' :: a :: b :: rest => (Text.ofDigits? 16 [a, b]).map (·, rest)
  | _ => none

def followers? (octet : Nat) : Option Nat :=
  if octet < 0x80 then some 0
  else if octet < 0xC0 then none
  else if octet < 0xE0 then some 1
  else if octet < 0xF0 then some 2
  else if octet < 0xF8 then some 3
  else none

def followedBy? : (count code : Nat) → List Char → Option (Nat × List Char)
  | 0, code, cs => some (code, cs)
  | count + 1, code, cs =>
    match octet? cs with
    | none => none
    | some (octet, rest) =>
      if 0x80 ≤ octet ∧ octet < 0xC0 then followedBy? count (code * 256 + octet) rest else none

/-- The character that octets behind percent signs stand for. All bits of the octets count for its
code, so that more than two of them make none. -/
def escaped? (cs : List Char) : Option (Char × List Char) := do
  let (octet, rest) ← octet? cs
  let (code, rest) ← followedBy? (← followers? octet) octet rest
  some (← Text.charOfCode? code, rest)

def addressWithin : (fuel : Nat) → List Char → Option (List Char × List Char)
  | 0, cs => some ([], cs)
  | _, [] => some ([], [])
  | fuel + 1, c :: cs =>
    if c = '%' then
      match escaped? (c :: cs) with
      | none => none
      | some (first, rest) =>
        (addressWithin fuel rest).map fun (text, rest) => (first :: text, rest)
    else if isAddressChar c then
      (addressWithin fuel cs).map fun (text, rest) => (c :: text, rest)
    else some ([], c :: cs)

def address? (cs : List Char) : Option (List Char × List Char) := addressWithin cs.length cs

def handle? : List Char → Option (List Char × List Char)
  | '!' :: cs =>
    let name := cs.takeWhile isNameChar
    match cs.dropWhile isNameChar with
    | '!' :: rest => some ('!' :: name ++ ['!'], rest)
    | rest => some ('!' :: name, rest)
  | _ => none

/-- A tag at the front: the name of a standard one, if it is one, and what is behind it. Behind a
second mark the address is not empty; without one the name is part of the address. -/
def tag? (cs : List Char) : Option (Option String × List Char) :=
  match cs with
  | '!' :: '<' :: cs =>
    match address? cs with
    | some (_ :: _, '>' :: rest) => some (none, rest)
    | _ => none
  | cs => do
    let (handle, rest) ← handle? cs
    let (name, rest) ← address? rest
    if handle.length ≤ 1 ∨ handle.getLast? ≠ some '!' then some (none, rest)
    else if name = [] then none
    else some (if handle = ['!', '!'] then some (String.ofList name) else none, rest)

/-- What is behind a number of at most nine digits. -/
def afterNumber? (cs : List Char) : Option (List Char) :=
  let length := (cs.takeWhile Char.isDigit).length
  if 1 ≤ length ∧ length ≤ 9 then some (cs.drop length) else none

def afterVersion? (cs : List Char) : Option (List Char) := do
  match ← afterNumber? (cs.dropWhile isBlank) with
  | '.' :: rest => afterNumber? rest
  | _ => none

def afterHandle? (cs : List Char) : Option (List Char) := do
  let (handle, rest) ← handle? (cs.dropWhile isBlank)
  let (address, rest) ← address? (rest.dropWhile isBlank)
  if handle.getLast? = some '!' ∧ address ≠ [] ∧ endsWord rest then some rest else none

/-- What is left of the line behind a directive, whose percent sign is gone: nothing but a comment
may follow it. What a directive of another name says does not count. -/
def afterDirective? (cs : List Char) : Option (List Char) := do
  let name := cs.takeWhile isNameChar
  let behind := cs.dropWhile isNameChar
  if name = [] ∨ ! endsWord behind then none
  else
    let rest ←
      if name = "YAML".toList then afterVersion? behind
      else if name = "TAG".toList then afterHandle? behind
      else some (behind.dropWhile (! isBreak ·))
    let rest := rest.dropWhile isBlank
    let rest := if rest.head? = some '#' then rest.dropWhile (! isBreak ·) else rest
    if rest.head?.all isBreak then some rest else none

end TradeTracker.Yaml

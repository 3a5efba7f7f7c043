import TradeTracker.Binary64
import TradeTracker.Json.Double
import TradeTracker.Text.Digits
import TradeTracker.Word

/-! Settings as a tree of tables and lists. A setting is put at a path; tables on the way come into
being, a table put over a table is merged into it, and anything else is replaced. -/
namespace TradeTracker

inductive Setting
  | nothing
  | flag (value : Bool)
  | integer (value : Int)
  | float (value : Binary64)
  | text (value : String)
  | list (items : List Setting)
  | table (entries : List (String × Setting))
deriving Repr, Inhabited

namespace Setting

def empty : Setting := table []

/-- The entries of a table; anything else counts as a table without entries. -/
def entries : Setting → List (String × Setting)
  | table entries => entries
  | _ => []

def items : Setting → List Setting
  | list items => items
  | _ => []

/-- The entries with `value` under `key`, at the place the key had before. -/
def putEntry (key : String) (value : Setting) : List (String × Setting) → List (String × Setting)
  | [] => [(key, value)]
  | entry :: rest =>
    if entry.1 = key then (key, value) :: rest else entry :: putEntry key value rest

mutual

def overlaid (current : Option Setting) : (incoming : Setting) → Setting
  | table incoming => addEntries (current.getD empty) incoming
  | incoming => incoming

def addEntries (target : Setting) : List (String × Setting) → Setting
  | [] => target
  | (key, value) :: rest =>
    let merged := overlaid (target.entries.lookup key) value
    addEntries (table (putEntry key merged target.entries)) rest

end

inductive Step
  | child (key : String)
  /-- An item of a list, from its end if the index is negative. -/
  | item (index : Int)
deriving DecidableEq, Repr

inductive PlaceError
  /-- An item before the first one. -/
  | beforeStart
  /-- The least index of 64 bits, which has no opposite. -/
  | noOpposite
  /-- A list longer than any that is made. -/
  | tooLong
deriving DecidableEq, Repr

def PlaceError.message : PlaceError → String
  | beforeStart => "attempt to subtract with overflow"
  | noOpposite => "attempt to negate with overflow"
  | tooLong => "capacity overflow"

def maxItems : Nat := 16777216

def position (length : Nat) (index : Int) : Except PlaceError Nat :=
  if 0 ≤ index then
    if index < maxItems then .ok index.toNat else .error .tooLong
  else if index = Word.least then .error .noOpposite
  else if index.natAbs ≤ length then .ok (length - index.natAbs)
  else .error .beforeStart

/-- The items with one replaced; the list grows as far as it has to. -/
def putItem (position : Nat) (value : Setting) (items : List Setting) : List Setting :=
  (items ++ List.replicate (position + 1 - items.length) nothing).set position value

/-- Puts a setting at the end of a path. On the way a table or a list replaces whatever is
neither. -/
def place (value : Setting) : List Step → Setting → Except PlaceError Setting
  | [], _ => .ok value
  | [.child key], at_ => .ok (addEntries (table at_.entries) [(key, value)])
  | .child key :: steps, at_ => do
    let part ← place value steps ((at_.entries.lookup key).getD nothing)
    .ok (table (putEntry key part at_.entries))
  | .item index :: steps, at_ => do
    let position ← position at_.items.length index
    let part ← place value steps (at_.items.getD position nothing)
    .ok (list (putItem position part at_.items))

def ofFinite? (value : Binary64) : Option Setting :=
  if value.isFinite then some (float value) else none

def ofInt? (n : Int) : Option Setting :=
  if Word.Fits n then some (integer n) else none

/-- The setting for a JSON number; whole ones beyond 64 bits are floating-point numbers. -/
def ofNumber? (n : JsonNumber) : Option Setting :=
  match n with
  | .whole i => (ofInt? i).or (n.toBinary64?.map float)
  | .written _ => n.toBinary64?.map float

mutual

def ofJson? : Json → Option Setting
  | .null => some nothing
  | .bool b => some (flag b)
  | .num n => ofNumber? n
  | .str s => some (text s)
  | .unpaired => none
  | .arr items => (ofJsonItems? items).map list
  | .obj members => (ofJsonMembers? [] members).map table

def ofJsonItems? : List Json → Option (List Setting)
  | [] => some []
  | item :: rest => do
    let item ← ofJson? item
    let rest ← ofJsonItems? rest
    some (item :: rest)

/-- Of members with one name the last counts. -/
def ofJsonMembers? (entries : List (String × Setting)) :
    List (String × Json) → Option (List (String × Setting))
  | [] => some entries
  | (name, value) :: rest => do
    let value ← ofJson? value
    ofJsonMembers? (putEntry name value entries) rest

end

end Setting
end TradeTracker

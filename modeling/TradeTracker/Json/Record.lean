import TradeTracker.Json.Basic
import TradeTracker.Word

/-! Records inside JSON values. A record is an object, whose unknown members are nobody's concern
and whose known ones occur once, or the array of its fields in their fixed order, cut short only
where the missing fields have defaults. -/
namespace TradeTracker.Json

abbrev Decoder (α : Type) := Json → Option α

/-- The fields of a record that are given, and whether they are given by name. -/
structure Record where
  named : Bool
  given : List (String × Json)

namespace Record

def repeats (name : String) (members : List (String × Json)) : Bool :=
  2 ≤ (members.filter (·.1 == name)).length

def read (names : List String) : Decoder Record
  | obj members =>
    if names.any (repeats · members) then none else some ⟨true, members⟩
  | arr items => if items.length ≤ names.length then some ⟨false, names.zip items⟩ else none
  | _ => none

def field? (r : Record) (name : String) : Option Json := r.given.lookup name

def required (r : Record) (name : String) (decode : Decoder α) : Option α :=
  (r.field? name).bind decode

/-- A field that may be `null`, and may be left out of an object. -/
def nullable (r : Record) (name : String) (decode : Decoder α) : Option (Option α) :=
  match r.field? name with
  | none => if r.named then some none else none
  | some null => some none
  | some v => (decode v).map some

/-- A field that may be `null` or left out. -/
def optional (r : Record) (name : String) (decode : Decoder α) : Option (Option α) :=
  match r.field? name with
  | none => some none
  | some null => some none
  | some v => (decode v).map some

/-- A field that may be left out, but not `null`. -/
def defaulted (r : Record) (name : String) (default : α) (decode : Decoder α) : Option α :=
  match r.field? name with
  | none => some default
  | some v => decode v

end Record

/-- A whole number in a range that ends before `bound`. -/
def natBelow? (bound : Nat) : Decoder Nat
  | num (.whole n) => if 0 ≤ n ∧ n < bound then some n.toNat else none
  | _ => none

def uint8? : Decoder UInt8 := fun v => (natBelow? UInt8.size v).map UInt8.ofNat

def uint32? : Decoder UInt32 := fun v => (natBelow? UInt32.size v).map UInt32.ofNat

def uint64? : Decoder UInt64 := fun v => (natBelow? UInt64.size v).map UInt64.ofNat

def int64? : Decoder Int64
  | num (.whole n) => if Word.Fits n then some (Int64.ofInt n) else none
  | _ => none

def number? : Decoder JsonNumber
  | num n => some n
  | _ => none

def bool? : Decoder Bool
  | bool b => some b
  | _ => none

def string? : Decoder String
  | str s => some s
  | _ => none

def parsed? (read : String → Option α) : Decoder α
  | str s => read s
  | _ => none

/-- Anything but a list is refused, and so is a list with a refused item. -/
def list? (decode : Decoder α) : Decoder (List α)
  | arr items => items.mapM decode
  | _ => none

def oneOf? (choices : List (String × α)) : Decoder α
  | str name => choices.lookup name
  | obj [(name, null)] => choices.lookup name
  | _ => none

/-- One of several names, where an empty object may stand for the `null` behind it. -/
def oneOfLoose? (choices : List (String × α)) : Decoder α
  | obj [(name, obj [])] => choices.lookup name
  | v => oneOf? choices v

end TradeTracker.Json

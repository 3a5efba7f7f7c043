import TradeTracker.Settings.Tree

/-! Reading typed values out of settings. Settings are read with some tolerance: a number may be
written as text or as a truth value, and the other way around. -/
namespace TradeTracker
namespace Setting

def lowered (s : String) : String := String.ofList (s.toList.map Char.toLower)

def yesWords : List String := ["true", "on", "yes"]

def noWords : List String := ["false", "off", "no"]

/-- A count of 64 bits: a number, a truth value as 1 or 0, or text for either. -/
def count? : Setting → Option Nat
  | integer n => if 0 ≤ n then some n.toNat else none
  | float x => some x.toCount.toNat
  | flag b => some (if b then 1 else 0)
  | text s =>
    if lowered s ∈ yesWords then some 1
    else if lowered s ∈ noWords then some 0
    else Text.unsignedBelow? UInt64.size s.toList
  | _ => none

/-- A count of which only the last 64 bits are kept. -/
def count64? (v : Setting) : Option UInt64 := v.count?.map UInt64.ofNat

def count32? (v : Setting) : Option UInt32 := v.count?.map UInt32.ofNat

def count8? (v : Setting) : Option UInt8 := v.count?.map UInt8.ofNat

/-- A truth value, a number other than zero, or text for either. -/
def flag? : Setting → Option Bool
  | flag b => some b
  | integer n => some (n != 0)
  | float x => some (! x.isZero)
  | text s =>
    if lowered s ∈ "1" :: yesWords then some true
    else if lowered s ∈ "0" :: noWords then some false
    else none
  | _ => none

/-- Text, or a number or truth value as it is printed. -/
def text? : Setting → Option String
  | text s => some s
  | flag b => some (if b then "true" else "false")
  | integer n => some n.repr
  | float x => some x.text
  | _ => none

/-- One of several names, alone or as the only key of a table. -/
def oneOf? (choices : List (String × α)) : Setting → Option α
  | text name => choices.lookup name
  | table [(name, _)] => choices.lookup name
  | _ => none

def list? (decode : Setting → Option α) : Setting → Option (List α)
  | list items => items.mapM decode
  | _ => none

/-- The given values of a section with known keys: a table, or a list of values in the order of the
keys. -/
def section? (keys : List String) : Setting → Option (List (String × Setting))
  | table entries => some entries
  | list items => some (keys.zip items)
  | _ => none

def required (given : List (String × Setting)) (key : String) (decode : Setting → Option α) :
    Option α :=
  (given.lookup key).bind decode

/-- A value that may be missing or nothing. -/
def optional (given : List (String × Setting)) (key : String) (decode : Setting → Option α) :
    Option (Option α) :=
  match given.lookup key with
  | none => some none
  | some nothing => some none
  | some v => (decode v).map some

def defaulted (given : List (String × Setting)) (key : String) (default : α)
    (decode : Setting → Option α) : Option α :=
  match given.lookup key with
  | none => some default
  | some v => decode v

end Setting
end TradeTracker

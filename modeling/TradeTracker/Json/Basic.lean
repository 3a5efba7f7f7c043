/-! JSON values. Members keep their order and their repetitions, since whoever reads a record
decides what a repeated name means. -/
namespace TradeTracker

/-- A number literal. One with a fraction, an exponent or a minus sign before zero is kept as
written, for it is no whole number to any reader. -/
inductive JsonNumber
  | whole (value : Int)
  | written (literal : String)
deriving DecidableEq, Repr

/-- `unpaired` is a string literal whose escapes leave half a surrogate pair: it denotes no text. -/
inductive Json
  | null
  | bool (value : Bool)
  | num (value : JsonNumber)
  | str (text : String)
  | unpaired
  | arr (items : List Json)
  | obj (members : List (String × Json))
deriving Repr, Inhabited

namespace Json

def ofNat (n : Nat) : Json := num (.whole n)

def ofInt (n : Int) : Json := num (.whole n)

def ofOption (write : α → Json) : Option α → Json
  | some a => write a
  | none => null

def ofList (write : α → Json) (items : List α) : Json := arr (items.map write)

def optionalMember (name : String) (write : α → Json) : Option α → List (String × Json)
  | some a => [(name, write a)]
  | none => []

mutual

/-- How many arrays and objects stand around the innermost part of a value. -/
def depth : Json → Nat
  | arr items => itemsDepth items + 1
  | obj members => membersDepth members + 1
  | _ => 0

def itemsDepth : List Json → Nat
  | [] => 0
  | item :: rest => max item.depth (itemsDepth rest)

def membersDepth : List (String × Json) → Nat
  | [] => 0
  | (_, value) :: rest => max value.depth (membersDepth rest)

end

end Json
end TradeTracker

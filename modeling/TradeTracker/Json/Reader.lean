import TradeTracker.Json.Token

/-! Reading JSON text strictly: one value, nothing behind it but blanks, no comments and no comma
before a closing bracket. -/
namespace TradeTracker.Json

/-- The object with the given members. A name that denotes no text leaves the whole object without a
meaning, just as it does a string. -/
def ofMembers (members : List (Option String × Json)) : Json :=
  let named : Option (List (String × Json)) :=
    members.mapM fun (name, value) => name.map fun name => (name, value)
  named.elim unpaired obj

def memberName? : Json → Option (Option String)
  | str name => some (some name)
  | unpaired => some none
  | _ => none

mutual

/-- A value at the front of a token sequence, with one unit of `fuel` for each token. -/
def valueWithin : (fuel : Nat) → List Token → Option (Json × List Token)
  | 0, _ => none
  | _ + 1, .scalar v :: ts => some (v, ts)
  | _ + 1, .openArray :: .closeArray :: ts => some (arr [], ts)
  | fuel + 1, .openArray :: ts => (itemsWithin fuel ts).map fun (items, rest) => (arr items, rest)
  | _ + 1, .openObject :: .closeObject :: ts => some (obj [], ts)
  | fuel + 1, .openObject :: ts =>
    (membersWithin fuel ts).map fun (members, rest) => (ofMembers members, rest)
  | _ + 1, _ => none

/-- At least one item, up to and with the closing bracket. -/
def itemsWithin : (fuel : Nat) → List Token → Option (List Json × List Token)
  | 0, _ => none
  | fuel + 1, ts =>
    match valueWithin fuel ts with
    | some (item, .comma :: ts) =>
      (itemsWithin fuel ts).map fun (items, rest) => (item :: items, rest)
    | some (item, .closeArray :: ts) => some ([item], ts)
    | _ => none

def membersWithin : (fuel : Nat) → List Token → Option (List (Option String × Json) × List Token)
  | 0, _ => none
  | fuel + 1, .scalar key :: .colon :: ts =>
    match memberName? key, valueWithin fuel ts with
    | some name, some (value, .comma :: ts) =>
      (membersWithin fuel ts).map fun (members, rest) => ((name, value) :: members, rest)
    | some name, some (value, .closeObject :: ts) => some ([(name, value)], ts)
    | _, _ => none
  | _ + 1, _ => none

end

/-- Twice as much fuel as tokens lets every item and member be entered. -/
def ofTokens? (ts : List Token) : Option Json :=
  match valueWithin (2 * ts.length) ts with
  | some (v, []) => some v
  | _ => none

def parse? (s : String) : Option Json := (tokens? s.toList).bind ofTokens?

end TradeTracker.Json

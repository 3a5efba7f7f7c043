import TradeTracker.Toml.Instant
import TradeTracker.Toml.Literal

/-! What the lines of a TOML file build up. Nothing is refused on the way: a key that is taken is
written a second time, and a table that has a key twice is no setting. -/
namespace TradeTracker.Toml

/-- What stands under a key. An array of tables keeps its last table, which is still open, apart
from those before it. -/
inductive Node
  | scalar (value : Scalar)
  | array (items : List Node)
  /-- A table in braces, or one that keys with points in them make. Only assignments beside those
  that made it add to the latter. -/
  | pairs (dotted : Bool) (entries : List (String × Node))
  /-- A table with a header of its own, or on the way to one. -/
  | table (declared : Bool) (entries : List (String × Node))
  | tables (closed : List (List (String × Node))) (last : List (String × Node))
deriving Inhabited

namespace Node

/-- The key that makes the text of a date out of a table if it stands first in it. -/
def dateKey : String := "$__toml_private_datetime"

def hasHeader : Node → Bool
  | table _ _ => true
  | tables _ _ => true
  | _ => false

def dateSetting? (text : List Char) : Option Setting :=
  (Instant.read? text).map fun instant => .text (String.ofList instant.text)

def dateOf? : Node → Option Setting
  | scalar (.plain (.text text)) => dateSetting? text.toList
  | _ => none

def hasRepeated (entries : List (String × α)) : Bool :=
  ! decide (entries.map (·.1)).Nodup

mutual

def toSetting? : Node → Option Setting
  | scalar (.plain value) => some value
  | scalar (.date text) => dateSetting? text
  | array items => (toSettings? items).map .list
  | pairs _ entries => ofEntries? entries
  | table _ entries => ofEntries? entries
  | tables closed last => do
    let closed ← ofTables? closed
    let last ← ofEntries? last
    some (.list (closed ++ [last]))

def toSettings? : List Node → Option (List Setting)
  | [] => some []
  | item :: rest => do
    let item ← toSetting? item
    let rest ← toSettings? rest
    some (item :: rest)

def ofTables? : List (List (String × Node)) → Option (List Setting)
  | [] => some []
  | entries :: rest => do
    let entries ← ofEntries? entries
    let rest ← ofTables? rest
    some (entries :: rest)

/-- The setting a table stands for: a table, or the text of a date. -/
def ofEntries? : List (String × Node) → Option Setting
  | [] => some .empty
  | (key, node) :: rest =>
    if key = dateKey then
      if rest.any fun entry => entry.2.hasHeader then none else dateOf? node
    else if hasRepeated ((key, node) :: rest) then none
    else do
      let value ← toSetting? node
      let rest ← toEntries? rest
      some (.table ((key, value) :: rest))

def toEntries? : List (String × Node) → Option (List (String × Setting))
  | [] => some []
  | (key, node) :: rest => do
    let value ← toSetting? node
    let rest ← toEntries? rest
    some ((key, value) :: rest)

end

/-- The setting of a whole file. A date in place of a table leaves it without entries, whatever
follows. -/
def ofFile? (entries : List (String × Node)) : Option Setting :=
  match entries with
  | (key, node) :: _ => if key = dateKey then dateOf? node else ofEntries? entries
  | [] => some .empty

/-- The entries with another node under the first key that a test finds, or behind them all. -/
def putWhere (test : Node → Bool) (key : String) (node : Node) :
    List (String × Node) → List (String × Node)
  | [] => [(key, node)]
  | entry :: rest =>
    if entry.1 = key ∧ test entry.2 then (key, node) :: rest
    else entry :: putWhere test key node rest

def lookupWhere (test : Node → Bool) (key : String) (entries : List (String × Node)) :
    Option Node :=
  (entries.find? fun entry => entry.1 = key ∧ test entry.2).map (·.2)

/-- Assigns a value. All keys but the last name tables, which are made where a key is new; a key
with anything else under it is refused. -/
def assign (v : Node) : List String → List (String × Node) → Option (List (String × Node))
  | [], entries => some entries
  | [key], entries => some (entries ++ [(key, v)])
  | key :: keys, entries =>
    match entries.lookup key with
    | none => (assign v keys []).map fun es => entries ++ [(key, pairs true es)]
    | some (pairs true es) =>
      (assign v keys es).map fun es => putWhere (fun _ => true) key (pairs true es) entries
    | some _ => none

/-- Declares a table, which may have come into being on the way to another one. -/
def declare (key : String) (body entries : List (String × Node)) : List (String × Node) :=
  match lookupWhere hasHeader key entries with
  | some (table false es) => putWhere hasHeader key (table true (es ++ body)) entries
  | _ => entries ++ [(key, table true body)]

def declareItem (key : String) (body entries : List (String × Node)) : List (String × Node) :=
  match lookupWhere hasHeader key entries with
  | some (tables closed last) =>
    putWhere hasHeader key (tables (closed ++ [last]) body) entries
  | _ => entries ++ [(key, tables [] body)]

/-- Changes the table that headers lead to. Missing tables come into being, and an array of tables
stands for its last one. -/
def change (f : List (String × Node) → List (String × Node)) :
    List String → List (String × Node) → List (String × Node)
  | [], entries => f entries
  | key :: path, entries =>
    match lookupWhere hasHeader key entries with
    | some (table declared es) =>
      putWhere hasHeader key (table declared (change f path es)) entries
    | some (tables closed last) =>
      putWhere hasHeader key (tables closed (change f path last)) entries
    | _ => entries ++ [(key, table false (change f path []))]

end Node
end TradeTracker.Toml

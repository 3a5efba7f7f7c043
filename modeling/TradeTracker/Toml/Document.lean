import TradeTracker.Text.Lines
import TradeTracker.Toml.Node

/-! Reading a TOML file into a table of settings. A key is assigned once and a table declared once;
every item of an array of tables starts a table of its own. -/
namespace TradeTracker.Toml

def skipComment (cs : List Char) : List Char := cs.dropWhile fun c => c == '\t' || 32 ≤ c.toNat

def newline? : List Char → Option (List Char)
  | '\n' :: cs => some cs
  | _ => none

def lineEnd? (cs : List Char) : Option (List Char) :=
  let cs := skipBlanks cs
  let cs := if cs.head? = some '#' then skipComment cs else cs
  if cs = [] then some [] else newline? cs

def skipLines : (fuel : Nat) → List Char → List Char
  | 0, cs => cs
  | fuel + 1, cs =>
    let cs := skipBlanks cs
    if cs = [] then []
    else
      match lineEnd? cs with
      | some rest => skipLines fuel rest
      | none => cs

mutual

/-- A value at the front; the fuel bounds how deep and how long it is. -/
def valueWithin : (fuel : Nat) → List Char → Option (Node × List Char)
  | 0, _ => none
  | fuel + 1, '[' :: cs => (itemsWithin fuel cs).map fun (items, rest) => (.array items, rest)
  | fuel + 1, '\x7b' :: cs =>
    match skipBlanks cs with
    | '\x7d' :: rest => some (.pairs false [], rest)
    | cs => (pairsWithin fuel [] cs).map fun (entries, rest) => (.pairs false entries, rest)
  | _ + 1, cs => (scalar? cs).map fun (value, rest) => (.scalar value, rest)

def itemsWithin : (fuel : Nat) → List Char → Option (List Node × List Char)
  | 0, _ => none
  | fuel + 1, cs =>
    match skipLines cs.length cs with
    | ']' :: rest => some ([], rest)
    | cs =>
      match valueWithin fuel cs with
      | none => none
      | some (item, rest) =>
        match skipLines rest.length rest with
        | ',' :: rest => (itemsWithin fuel rest).map fun (items, rest) => (item :: items, rest)
        | ']' :: rest => some ([item], rest)
        | _ => none

def pairsWithin : (fuel : Nat) → List (String × Node) → List Char →
    Option (List (String × Node) × List Char)
  | 0, _, _ => none
  | fuel + 1, entries, cs =>
    match keys? cs with
    | some (keys, '=' :: rest) =>
      match valueWithin fuel (skipBlanks rest) with
      | none => none
      | some (v, rest) =>
        match Node.assign v keys entries with
        | none => none
        | some entries =>
          match skipBlanks rest with
          | '\x7d' :: rest => some (entries, rest)
          | ',' :: rest => pairsWithin fuel entries rest
          | _ => none
    | _ => none

end

structure Header where
  item : Bool
  keys : List String
deriving DecidableEq, Repr

/-- A file as far as it has been read: the entries under the last header, and all entries under
those before it. The lines before the first header have none. -/
structure Progress where
  header : Option Header
  body : List (String × Node)
  entries : List (String × Node)

def Progress.close (p : Progress) : List (String × Node) :=
  match p.header with
  | none => p.body
  | some header =>
    let last := header.keys.getLastD ""
    let declare := if header.item then Node.declareItem last p.body else Node.declare last p.body
    Node.change declare header.keys.dropLast p.entries

def header? (item : Bool) (cs : List Char) : Option (Header × List Char) := do
  let (keys, rest) ← keys? cs
  let rest ← match item, rest with
    | true, ']' :: ']' :: rest => some rest
    | false, ']' :: rest => some rest
    | _, _ => none
  some (⟨item, keys⟩, ← lineEnd? rest)

def line? (cs : List Char) (p : Progress) : Option (Progress × List Char) :=
  match cs with
  | '[' :: '[' :: cs =>
    (header? true cs).map fun (header, rest) => (⟨some header, [], p.close⟩, rest)
  | '[' :: cs => (header? false cs).map fun (header, rest) => (⟨some header, [], p.close⟩, rest)
  | cs => do
    match ← keys? cs with
    | (keys, '=' :: rest) =>
      let (v, rest) ← valueWithin (2 * rest.length + 2) (skipBlanks rest)
      let rest ← lineEnd? rest
      some (⟨p.header, ← Node.assign v keys p.body, p.entries⟩, rest)
    | _ => none

def linesWithin : (fuel : Nat) → List Char → Progress → Option Progress
  | 0, _, _ => none
  | fuel + 1, cs, p =>
    match skipLines cs.length cs with
    | [] => some p
    | cs =>
      match line? cs p with
      | some (p, rest) => linesWithin fuel rest p
      | none => none

/-- The setting in a file, behind a byte order mark if it has one. -/
def parse? (text : String) : Option Setting := do
  let cs := Text.foldLineEnds text.toList
  let cs := if cs.head? = some '\uFEFF' then cs.tail else cs
  let p ← linesWithin (cs.length + 1) cs ⟨none, [], []⟩
  Node.ofFile? p.close

end TradeTracker.Toml

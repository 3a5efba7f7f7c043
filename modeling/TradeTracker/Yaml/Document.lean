import TradeTracker.Settings.Tree
import TradeTracker.Yaml.Token

/-! Reading a YAML file of at most one document. -/
namespace TradeTracker.Yaml

/-- A node of a document. A floating-point number is kept as it is written; `bad` is what a tag or a
reference makes of something that does not go with it. -/
inductive Node
  | null
  | bad
  | flag (value : Bool)
  | integer (value : Int)
  | float (text : String)
  | text (text : String)
  | list (items : List Node)
  | table (entries : List (String × Node))
deriving Repr, Inhabited

namespace Node

def integer? (base : Nat) (cs : List Char) : Option Int := do
  let negative := cs.head? = some '-'
  let digits := if negative ∨ cs.head? = some '+' then cs.tail else cs
  let magnitude ← if digits = [] then none else Text.ofDigits? base digits
  let n : Int := if negative then - (magnitude : Int) else magnitude
  if Word.Fits n then some n else none

def floatWords : List String :=
  [".inf", ".Inf", ".INF", "+.inf", "+.Inf", "+.INF", "-.inf", "-.Inf", "-.INF", ".nan", "NaN",
    ".NAN"]

def isFloat (text : String) : Bool :=
  text ∈ floatWords || (Binary64.read? text.toList).isSome

def marked? : List Char → Option Int
  | '0' :: 'x' :: cs => integer? 16 cs
  | '0' :: 'o' :: cs => integer? 8 cs
  | '+' :: cs => integer? 10 cs
  | _ => none

def nullWords : List String := ["~", "null"]

def ofPlain (t : String) : Node :=
  match (marked? t.toList).or (integer? 10 t.toList) with
  | some n => integer n
  | none =>
    if t ∈ nullWords then null
    else if t = "true" then flag true
    else if t = "false" then flag false
    else if isFloat t then float t
    else text t

def ofTagged (tag t : String) : Node :=
  if tag = "bool" then
    if t = "true" then flag true else if t = "false" then flag false else bad
  else if tag = "int" then ((integer? 10 t.toList).map integer).getD bad
  else if tag = "float" then if isFloat t then float t else bad
  else if tag = "null" then if t ∈ nullWords then null else bad
  else text t

/-- What a scalar stands for; `tag` is the name of its tag, if it has one, and that of a tag that is
not standard is missing. -/
def ofScalar (tag : Option (Option String)) (plain : Bool) (t : String) : Node :=
  if ! plain then text t
  else
    match tag with
    | none => ofPlain t
    | some none => text t
    | some (some name) => ofTagged name t

def put (key : String) (value : Node) : List (String × Node) → List (String × Node)
  | [] => [(key, value)]
  | entry :: rest => if entry.1 = key then (key, value) :: rest else entry :: put key value rest

/-- Entries with more of them in nodes, which are keys and values by turns. A bad node is no key, so
that the next one takes its place, and a key that is no text is left out with its value. -/
def addEntries (entries : List (String × Node)) : List Node → List (String × Node)
  | bad :: rest => addEntries entries rest
  | text key :: value :: rest => addEntries (put key value entries) rest
  | _ :: _ :: rest => addEntries entries rest
  | _ => entries

def ofEntries (nodes : List Node) : Node := table (addEntries [] nodes)

end Node

structure Reading where
  tokens : List Token
  anchors : List (String × Nat)
  nodes : List (Nat × Node)

abbrev Reader := StateT Reading Option

namespace Reader

def peek : Reader (Option Token) := do return (← get).tokens.head?

def skip : Reader Unit := modify fun r => { r with tokens := r.tokens.tail }

def refuse : Reader α := fun _ => none

def expect (token : Token) : Reader Unit := do
  if (← peek) = some token then skip else refuse

def isOneOf (tokens : List Token) : Reader Bool := do
  return (← peek).any (tokens.contains ·)

def register (name : String) : Reader Nat := do
  let r ← get
  let number := r.anchors.length
  set { r with anchors := (name, number) :: r.anchors }
  return number

def properties : Reader (Option Nat × Option (Option String)) := do
  match ← peek with
  | some (.anchor name) =>
    skip
    let number ← register name
    match ← peek with
    | some (.tag tag) => skip; return (some number, some tag)
    | _ => return (some number, none)
  | some (.tag tag) =>
    skip
    match ← peek with
    | some (.anchor name) => skip; return (some (← register name), some tag)
    | _ => return (none, some tag)
  | _ => return (none, none)

def keep (anchor : Option Nat) (node : Node) : Reader Node := do
  match anchor with
  | none => return node
  | some number =>
    modify fun r => { r with nodes := (number, node) :: r.nodes }
    return node

/-- The node that a reference stands for. One inside the node it refers to is bad. -/
def resolve (name : String) : Reader Node := do
  let r ← get
  match r.anchors.lookup name with
  | none => refuse
  | some number => return (r.nodes.lookup number).getD .bad

mutual

/-- A node; the fuel bounds how deep and how long it is. Inside brackets there are no blocks, and
only the value of a key may be a list that is not indented. -/
def nodeWithin : (fuel : Nat) → (block indentless : Bool) → Reader Node
  | 0, _, _ => refuse
  | fuel + 1, block, indentless => do
    if let some (.reference name) ← peek then
      skip
      return ← resolve name
    let (anchor, tag) ← properties
    match ← peek with
    | some (.scalar plain text) => skip; keep anchor (.ofScalar tag plain text)
    | some .flowSequence => skip; keep anchor (.list (← flowItems fuel true))
    | some .flowMapping => skip; keep anchor (.ofEntries (← flowEntries fuel true))
    | token =>
      if token = some .blockEntry ∧ indentless then keep anchor (.list (← indentlessItems fuel))
      else if token = some .blockSequence ∧ block then
        skip
        keep anchor (.list (← blockItems fuel))
      else if token = some .blockMapping ∧ block then
        skip
        keep anchor (.ofEntries (← blockEntries fuel))
      else if anchor.isSome ∨ tag.isSome then keep anchor (.ofScalar tag true "")
      else refuse

def nodeUnless : (fuel : Nat) → (ends : List Token) → (block indentless : Bool) → Reader Node
  | 0, _, _, _ => refuse
  | fuel + 1, ends, block, indentless => do
    if ← isOneOf ends then return .null else nodeWithin fuel block indentless

/-- Items behind dashes at the column of the key in front of them. -/
def indentlessItems : (fuel : Nat) → Reader (List Node)
  | 0 => refuse
  | fuel + 1 => do
    if ← isOneOf [.blockEntry] then
      skip
      let item ← nodeUnless fuel [.blockEntry, .key, .value, .blockEnd] true false
      return item :: (← indentlessItems fuel)
    else return []

def blockItems : (fuel : Nat) → Reader (List Node)
  | 0 => refuse
  | fuel + 1 => do
    if ← isOneOf [.blockEnd] then
      skip
      return []
    else
      expect .blockEntry
      let item ← nodeUnless fuel [.blockEntry, .blockEnd] true false
      return item :: (← blockItems fuel)

/-- Keys and values by turns up to the end of their block. Either may be missing. -/
def blockEntries : (fuel : Nat) → Reader (List Node)
  | 0 => refuse
  | fuel + 1 => do
    if ← isOneOf [.blockEnd] then
      skip
      return []
    else
      let ends := [.key, .value, .blockEnd]
      let key ←
        if ← isOneOf [.key] then
          skip
          nodeUnless fuel ends true true
        else if ← isOneOf [.value] then pure .null
        else refuse
      let value ←
        if ← isOneOf [.value] then
          skip
          nodeUnless fuel ends true true
        else pure .null
      return key :: value :: (← blockEntries fuel)

/-- Items up to the closing bracket. A key with its value is an item of its own. -/
def flowItems : (fuel : Nat) → (first : Bool) → Reader (List Node)
  | 0, _ => refuse
  | fuel + 1, first => do
    if ← isOneOf [.flowSequenceEnd] then
      skip
      return []
    else
      if ! first then expect .flowEntry
      if ← isOneOf [.flowSequenceEnd] then
        skip
        return []
      else
        let item ←
          if ← isOneOf [.key] then
            skip
            flowPair fuel
          else nodeWithin fuel false false
        return item :: (← flowItems fuel false)

def flowPair : (fuel : Nat) → Reader Node
  | 0 => refuse
  | fuel + 1 => do
    let ends := [.flowEntry, .flowSequenceEnd]
    let missing ← isOneOf (.value :: ends)
    if missing then skip
    let key ← if missing then pure .null else nodeWithin fuel false false
    if ← isOneOf [.value] then
      skip
      return .ofEntries [key, ← nodeUnless fuel ends false false]
    else return .ofEntries [key, .null]

def flowEntries : (fuel : Nat) → (first : Bool) → Reader (List Node)
  | 0, _ => refuse
  | fuel + 1, first => do
    if ← isOneOf [.flowMappingEnd] then
      skip
      return []
    else
      if ! first then expect .flowEntry
      if ← isOneOf [.flowMappingEnd] then
        skip
        return []
      else
        let ends := [.flowEntry, .flowMappingEnd]
        if ← isOneOf [.key, .value] then
          let key ←
            if ← isOneOf [.key] then
              skip
              nodeUnless fuel (.value :: ends) false false
            else pure .null
          let value ←
            if ← isOneOf [.value] then
              skip
              nodeUnless fuel ends false false
            else pure .null
          return key :: value :: (← flowEntries fuel false)
        else
          let key ← nodeWithin fuel false false
          return key :: .null :: (← flowEntries fuel false)

end

def directives : (fuel : Nat) → Reader Unit
  | 0 => refuse
  | fuel + 1 => do
    if ← isOneOf [.directive] then
      skip
      directives fuel

/-- The only document of a file, if there is one. Without a mark it starts with its first token;
more than one document is refused. -/
def document (fuel : Nat) : Reader (Option Node) := do
  let node ←
    if (← peek).isNone then pure none
    else if ← isOneOf [.directive, .documentStart] then
      directives fuel
      expect .documentStart
      let ends := [.directive, .documentStart, .documentEnd]
      if (← peek).isNone ∨ (← isOneOf ends) then pure (some .null)
      else some <$> nodeWithin fuel true false
    else some <$> nodeWithin fuel true false
  let rest := (← get).tokens.dropWhile (· = .documentEnd)
  if rest = [] then return node else refuse

end Reader

namespace Node

mutual

/-- The setting a node spells. A word for a floating-point number that begins with a point, behind a
sign or not, has no value. -/
def toSetting? : Node → Option Setting
  | null => some .nothing
  | bad => some .nothing
  | flag b => some (.flag b)
  | integer n => some (.integer n)
  | float t => (Binary64.read? t.toList).map .float
  | text t => some (.text t)
  | list items => (toSettings? items).map .list
  | table entries => (toEntries? entries).map .table

def toSettings? : List Node → Option (List Setting)
  | [] => some []
  | item :: rest => do
    let item ← toSetting? item
    some (item :: (← toSettings? rest))

def toEntries? : List (String × Node) → Option (List (String × Setting))
  | [] => some []
  | (key, value) :: rest => do
    let value ← toSetting? value
    some ((key, value) :: (← toEntries? rest))

end

end Node

/-- The setting in a file. A file without a document is an empty table. -/
def parse? (text : String) : Option Setting := do
  let tokens ← tokens? text
  let (node, _) ← (Reader.document (4 * tokens.length + 4)).run ⟨tokens, [], []⟩
  node.elim (some .empty) Node.toSetting?

end TradeTracker.Yaml

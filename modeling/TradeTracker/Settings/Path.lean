import TradeTracker.Settings.Tree

/-! Written paths: keys with points between them and indices in brackets. A key that is no such
path names an entry of the outermost table as it stands. -/
namespace TradeTracker
namespace Setting

def isKeyChar (c : Char) : Bool := c.isAlphanum || c == ' ' || c == '_' || c == '-'

def isIndexBlank (c : Char) : Bool := c == ' ' || c == '\t'

def readIndex? (cs : List Char) : Option (Int × List Char) :=
  let cs := cs.dropWhile isIndexBlank
  let negative := cs.head? = some '-'
  let cs := if negative then cs.tail else cs
  let digits := cs.takeWhile Char.isDigit
  let index : Int := if negative then - (Text.digitsValue digits : Int) else Text.digitsValue digits
  match (cs.dropWhile Char.isDigit).dropWhile isIndexBlank with
  | ']' :: rest =>
    if digits ≠ [] ∧ Word.Fits index then some (index, rest) else none
  | _ => none

def readSteps? : (fuel : Nat) → List Char → Option (List Step)
  | _, [] => some []
  | 0, _ :: _ => none
  | fuel + 1, '.' :: cs =>
    let key := cs.takeWhile isKeyChar
    if key = [] then none
    else (readSteps? fuel (cs.dropWhile isKeyChar)).map (.child (String.ofList key) :: ·)
  | fuel + 1, '[' :: cs =>
    match readIndex? cs with
    | some (index, rest) => (readSteps? fuel rest).map (.item index :: ·)
    | none => none
  | _ + 1, _ => none

def readPath (text : String) : List Step :=
  let cs := text.toList
  let key := cs.takeWhile isKeyChar
  match readSteps? cs.length (cs.dropWhile isKeyChar) with
  | some steps => if key = [] then [.child text] else .child (String.ofList key) :: steps
  | none => [.child text]

def placeAll (entries : List (String × Setting)) (root : Setting) : Except PlaceError Setting :=
  entries.foldlM (fun root (path, value) => place value (readPath path) root) root

end Setting
end TradeTracker

import TradeTracker.Json.Basic

/-! JSON text. The compact form has no blanks at all; the indented form puts every item and
member on a line of its own, two spaces deeper than its container. -/
namespace TradeTracker.Json

/-- The two digits below sixteen, sixteenths first. -/
private def hexByte (n : Nat) : List Char := [Nat.digitChar (n / 16), Nat.digitChar (n % 16)]

/-- One character of a string literal: only quotes, backslashes and control characters change. -/
def escapedChar (c : Char) : List Char :=
  if c = '\x22' ∨ c = '\x5c' then ['\x5c', c]
  else if c = '\x08' then ['\x5c', 'b']
  else if c = '\x0c' then ['\x5c', 'f']
  else if c = '\n' then ['\x5c', 'n']
  else if c = '\r' then ['\x5c', 'r']
  else if c = '\t' then ['\x5c', 't']
  else if c.toNat < 32 then ['\x5c', 'u', '0', '0'] ++ hexByte c.toNat
  else [c]

def stringLiteral (s : String) : List Char :=
  '\x22' :: s.toList.flatMap escapedChar ++ ['\x22']

/-- A literal that no text stands behind: the first half of a surrogate pair alone. -/
def unpairedLiteral : List Char := ['\x22', '\x5c', 'u', 'd', '8', '0', '0', '\x22']

def numberLiteral : JsonNumber → List Char
  | .whole n => n.repr.toList
  | .written literal => literal.toList

def boolLiteral (b : Bool) : List Char := if b then "true".toList else "false".toList

def separated (separator : List Char) : List (List Char) → List Char
  | [] => []
  | [part] => part
  | part :: parts => part ++ separator ++ separated separator parts

mutual

def compactChars : Json → List Char
  | null => "null".toList
  | bool b => boolLiteral b
  | num n => numberLiteral n
  | str s => stringLiteral s
  | unpaired => unpairedLiteral
  | arr items => '[' :: separated [','] (compactItems items) ++ [']']
  | obj members => '\x7b' :: separated [','] (compactMembers members) ++ ['\x7d']

def compactItems : List Json → List (List Char)
  | [] => []
  | item :: items => compactChars item :: compactItems items

def compactMembers : List (String × Json) → List (List Char)
  | [] => []
  | (name, value) :: members =>
    (stringLiteral name ++ ':' :: compactChars value) :: compactMembers members

end

def lineAt (depth : Nat) : List Char := '\n' :: List.replicate (2 * depth) ' '

/-- A container with each part on its own line, or closed at once when it is empty. -/
def indentedParts (opening closing : Char) (depth : Nat) (parts : List (List Char)) : List Char :=
  if parts = [] then [opening, closing]
  else opening :: lineAt (depth + 1) ++ separated (',' :: lineAt (depth + 1)) parts ++
    lineAt depth ++ [closing]

mutual

def indentedChars (depth : Nat) : Json → List Char
  | null => "null".toList
  | bool b => boolLiteral b
  | num n => numberLiteral n
  | str s => stringLiteral s
  | unpaired => unpairedLiteral
  | arr items => indentedParts '[' ']' depth (indentedItems (depth + 1) items)
  | obj members => indentedParts '\x7b' '\x7d' depth (indentedMembers (depth + 1) members)

def indentedItems (depth : Nat) : List Json → List (List Char)
  | [] => []
  | item :: items => indentedChars depth item :: indentedItems depth items

def indentedMembers (depth : Nat) : List (String × Json) → List (List Char)
  | [] => []
  | (name, value) :: members =>
    (stringLiteral name ++ ':' :: ' ' :: indentedChars depth value) :: indentedMembers depth members

end

def compact (v : Json) : String := String.ofList v.compactChars

def indented (v : Json) : String := String.ofList (v.indentedChars 0)

end TradeTracker.Json

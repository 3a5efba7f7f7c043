import TradeTracker.Settings.Tree
import TradeTracker.Text.Blank
import TradeTracker.Text.Code

/-! Reading an INI file. Its sections are tables of texts; the assignments before the first section
stand beside the sections. -/
namespace TradeTracker.Ini

/-- The character with a code of four characters: hexadecimal digits, or three of them behind a plus
sign. -/
def ofCode? (cs : List Char) : Option Char :=
  Text.charOfHex? (if cs.head? = some '+' then cs.tail else cs)

/-- What an escape of two characters adds to a text. A line end behind a backslash adds nothing. -/
def shortEscape (c : Char) : List Char :=
  if c = '0' then ['\x00']
  else if c = 'a' then ['\x07']
  else if c = 'b' then ['\x08']
  else if c = 't' then ['\t']
  else if c = 'r' then ['\r']
  else if c = 'n' then ['\n']
  else if c = '\n' then []
  else [c]

/-- Reads up to one of the stops, which is left, or if the text is open to its end, up to that. -/
def readUntil (stops : List Char) (isOpen : Bool) : List Char → Option (List Char × List Char)
  | [] => if isOpen then some ([], []) else none
  | ['\x5c'] => none
  | '\x5c' :: 'x' :: a :: b :: c :: d :: rest => do
    let first ← ofCode? [a, b, c, d]
    let (text, rest) ← readUntil stops isOpen rest
    some (first :: text, rest)
  | '\x5c' :: c :: rest =>
    if c = 'x' then none
    else (readUntil stops isOpen rest).map fun (text, rest) => (shortEscape c ++ text, rest)
  | c :: rest =>
    if c ∈ stops then some ([], c :: rest)
    else (readUntil stops isOpen rest).map fun (text, rest) => (c :: text, rest)

def readLine? (cs : List Char) : Option (List Char × List Char) := readUntil ['\n', '\r'] true cs

def value? (cs : List Char) : Option (String × List Char) := do
  let cs := cs.dropWhile fun c => Text.isBlank c && c != '\n' && c != '\r'
  let (text, rest) ← match cs with
    | [] => some ([], [])
    | c :: rest =>
      if c = '\x22' ∨ c = '\x27' then
        match readUntil [c] false rest with
        | none => none
        | some (text, rest) =>
          (readLine? rest.tail).map fun (more, rest) => (text ++ more, rest)
      else readLine? cs
  some (String.ofList (Text.trimChars text), rest)

/-- A file as far as it has been read: the assignments of the last section, and what stands before
it. The assignments before the first section belong to none. -/
structure Progress where
  header : Option String
  body : List (String × Setting)
  entries : List (String × Setting)

/-- All entries. The last of several sections with one name counts. -/
def Progress.close (p : Progress) : List (String × Setting) :=
  match p.header with
  | none => p.body
  | some name => Setting.putEntry name (.table p.body) p.entries

/-- Blanks and line ends go. The flag says whether what follows starts a line. -/
def skipSpace : (fresh : Bool) → List Char → Bool × List Char
  | fresh, [] => (fresh, [])
  | fresh, c :: cs => if Text.isBlank c then skipSpace (c == '\n') cs else (fresh, c :: cs)

/-- All lines, with one unit of `fuel` for each part of them. Comments start a line. -/
def partsWithin : (fuel : Nat) → (fresh : Bool) → List Char → Progress → Option Progress
  | 0, _, _, _ => none
  | fuel + 1, fresh, cs, p =>
    match skipSpace fresh cs with
    | (_, []) => some p
    | (fresh, c :: cs) =>
      if c = ';' ∨ c = '#' then
        if fresh then partsWithin fuel true (cs.dropWhile (· != '\n')).tail p else none
      else if c = '[' then do
        let (name, rest) ← readUntil [']'] false cs
        let name := String.ofList (Text.trimChars name)
        partsWithin fuel false rest.tail ⟨some name, [], p.close⟩
      else do
        let (key, rest) ← readUntil ['=', ':'] false (c :: cs)
        let key := Text.trimChars key
        if key = [] then none
        else
          let (value, rest) ← value? rest.tail
          let body := Setting.putEntry (String.ofList key) (.text value) p.body
          partsWithin fuel false rest ⟨p.header, body, p.entries⟩

def parse? (text : String) : Option Setting :=
  let cs := text.toList
  (partsWithin (cs.length + 1) true cs ⟨none, [], []⟩).map fun p => .table p.close

end TradeTracker.Ini

/-! Files and the paths to them. Names are looked up from a working directory, whose surroundings
are not known but for the directories above it, those that every system has, and the files that are
given there. -/
namespace TradeTracker

inductive Origin
  | here
  /-- The directory so many levels above the one just above this one. -/
  | above (levels : Nat)
  | root
deriving DecidableEq, Repr

def Origin.parent : Origin → Origin
  | here => above 0
  | above levels => above (levels + 1)
  | root => root

structure Location where
  origin : Origin
  names : List String
deriving DecidableEq, Repr

namespace Location

def child (l : Location) (name : String) : Location := ⟨l.origin, l.names ++ [name]⟩

def parent (l : Location) : Location :=
  if l.names = [] then ⟨l.origin.parent, []⟩ else ⟨l.origin, l.names.dropLast⟩

def isAbove (l other : Location) : Bool :=
  l.origin = other.origin && l.names.isPrefixOf other.names && l.names.length < other.names.length

end Location

inductive FileError
  | missing
  | notADirectory
  | isADirectory
  | nameTooLong
  | badCharacter
deriving DecidableEq, Repr

def FileError.message : FileError → String
  | missing => "No such file or directory (os error 2)"
  | notADirectory => "Not a directory (os error 20)"
  | isADirectory => "Is a directory (os error 21)"
  | nameTooLong => "File name too long (os error 36)"
  | badCharacter => "file name contained an unexpected NUL byte"

structure Directory where
  files : List (Location × String)
deriving DecidableEq, Repr

namespace Directory

/-- The longest name of a file, in bytes. -/
def maxName : Nat := 255

/-- Paths have fewer bytes than this. -/
def pathBound : Nat := 4096

/-- The names on a path. Slashes in a row count as one. -/
def parts (path : String) : List String := (path.splitOn "/").filter (· ≠ "")

def isDots (part : String) : Bool := part = "." || part = ".."

def standardDirectories : List Location := [⟨.root, ["dev"]⟩, ⟨.root, ["tmp"]⟩]

/-- The file that stays empty whatever is written to it. -/
def nullFile : Location := ⟨.root, ["dev", "null"]⟩

def isDirectory (directory : Directory) (l : Location) : Bool :=
  l.names = [] || l ∈ standardDirectories || directory.files.any fun file => l.isAbove file.1

def fileAt? (directory : Directory) (l : Location) : Option String :=
  if l = nullFile then some "" else directory.files.lookup l

def enter (directory : Directory) (l : Location) (part : String) : Except FileError Location :=
  if part = "." then .ok l
  else if part = ".." then .ok l.parent
  else if maxName < part.utf8ByteSize then .error .nameTooLong
  else if directory.isDirectory (l.child part) then .ok (l.child part)
  else if (directory.fileAt? (l.child part)).isSome then .error .notADirectory
  else .error .missing

def reach (directory : Directory) (path : String) : Except FileError Location :=
  if path.toList.contains '\x00' then .error .badCharacter
  else if pathBound ≤ path.utf8ByteSize then .error .nameTooLong
  else
    let start : Location := ⟨if path.toList.head? = some '/' then .root else .here, []⟩
    (parts path).dropLast.foldlM directory.enter start

/-- The name of the file a path is for. A path that ends in a slash or in points is for none. -/
def fileName? (path : String) : Option String :=
  match (parts path).getLast? with
  | none => none
  | some name => if isDots name || path.toList.getLast? = some '/' then none else some name

def read? (directory : Directory) (path : String) : Option String := do
  let name ← fileName? path
  let l ← (directory.reach path).toOption
  directory.fileAt? (l.child name)

def hasDirectory (directory : Directory) (path : String) : Bool :=
  match directory.reach path with
  | .ok l => ((parts path).getLast?.toList.foldlM directory.enter l).toBool
  | .error _ => false

def contains (directory : Directory) (path : String) : Bool :=
  (directory.read? path).isSome || directory.hasDirectory path

def put (l : Location) (text : String) (files : List (Location × String)) :
    List (Location × String) :=
  files.filter (·.1 ≠ l) ++ [(l, text)]

def write (directory : Directory) (path text : String) : Except FileError Directory := do
  let l ← directory.reach path
  match fileName? path with
  | none => .error .isADirectory
  | some name =>
    if maxName < name.utf8ByteSize then .error .nameTooLong
    else if directory.isDirectory (l.child name) then .error .isADirectory
    else if l.child name = nullFile then .ok directory
    else .ok ⟨put (l.child name) text directory.files⟩

/-- The files with the given paths; a path that leads nowhere names none. -/
def ofFiles (files : List (String × String)) : Directory where
  files := files.filterMap fun (path, text) =>
    let names := (parts path).filter (· ≠ ".")
    let origin := if path.toList.head? = some '/' then Origin.root else Origin.here
    if names = [] then none else some (⟨origin, names⟩, text)

def listing (directory : Directory) : List String :=
  directory.files.filterMap fun file =>
    if file.1.origin = .here then some ("/".intercalate file.1.names) else none

end Directory
end TradeTracker

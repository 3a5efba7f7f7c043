import TradeTracker.Ini.Document
import TradeTracker.Json.Reader
import TradeTracker.Json5.Document
import TradeTracker.Ron.Document
import TradeTracker.Settings.Basic
import TradeTracker.Settings.Environment
import TradeTracker.Toml.Document
import TradeTracker.Yaml.Document

/-! Loading settings from a file, with environment variables on top of it. The end of the file's
name says how it is written. -/
namespace TradeTracker
namespace Settings

inductive Format
  | toml
  | json
  | yaml
  | ini
  | ron
  | json5
deriving DecidableEq, Repr

def Format.choices : List (String × Format) :=
  [("toml", toml), ("json", json), ("yaml", yaml), ("yml", yaml), ("ini", ini), ("ron", ron),
    ("json5", json5)]

/-- What stands behind the last point of the last part of a path, unless that part begins there. -/
def extension (path : String) : String :=
  let name := path.toList.reverse.takeWhile (· != '/')
  let ending := name.takeWhile (· != '.')
  if name.length ≤ ending.length + 1 then "" else String.ofList ending.reverse

/-- Where the file for a path may be: at the path, or where the path leads to a directory, beside it
under the same name with an ending. -/
def candidates (path : String) : List String :=
  let parts := (path.splitOn "/").filter fun part => part ≠ "" ∧ part ≠ "."
  let start := if path.toList.head? = some '/' then "/" else ""
  if parts.getLastD ".." = ".." then [path]
  else path :: Format.choices.map fun (ending, _) => start ++ "/".intercalate parts ++ "." ++ ending

def Format.ofPath? (path : String) : Option Format :=
  choices.lookup (extension path)

def maxDepth : Nat := 127

def ofJsonText? (text : String) : Option Setting := do
  let value ← Json.parse? text
  if value.depth ≤ maxDepth then Setting.ofJson? value else none

def ofText? (format : Format) (text : String) : Option Setting :=
  match format with
  | .toml => Toml.parse? text
  | .json => ofJsonText? text
  | .yaml => Yaml.parse? text
  | .ini => Ini.parse? text
  | .ron => Ron.parse? text
  | .json5 => Json5.parse? text

def ofFile (path : String) (text : Option String) : Except SettingsError Setting :=
  let setting := do ofText? (← Format.ofPath? path) (← text)
  setting.elim (.error .unreadable) .ok

def tree (entries : List (String × Setting)) (environment : List (String × String)) :
    Except Setting.PlaceError Setting := do
  Setting.placeAll (Setting.ofVariables environment) (← Setting.placeAll entries .empty)

/-- The settings in a file, if there is one, under the variables of an environment. A file that
holds no table has no entries. -/
def load (path : String) (text : Option String) (environment : List (String × String)) :
    Except SettingsError Settings := do
  let file ← ofFile path text
  let tree ← (tree file.entries environment).mapError .misplaced
  match WrittenSettings.ofSetting? tree with
  | none => .error .illFormed
  | some written => ofWritten written

end Settings
end TradeTracker

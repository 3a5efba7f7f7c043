import TradeTracker.Settings.Path

/-! Environment variables as settings. Names are compared in lower case, and two underscores stand
between the keys of a path. -/
namespace TradeTracker
namespace Setting

/-- The lower-case form, as far as it decides whether a name is made of ASCII letters: of all other
characters only the Kelvin sign has an ASCII letter for it. -/
def lowerChar (c : Char) : Char := if c.toNat = 0x212A then 'k' else c.toLower

/-- Every two underscores in a row become a point. -/
def pointed : List Char → List Char
  | '_' :: '_' :: cs => '.' :: pointed cs
  | c :: cs => c :: pointed cs
  | [] => []

def environmentMark : List Char := "hylo__".toList

def variablePath? (name : String) : Option String :=
  let name := name.toList.map lowerChar
  if environmentMark.isPrefixOf name then
    some (String.ofList (pointed (name.drop environmentMark.length)))
  else none

/-- The variable in an entry of a process's environment. Its name ends in front of the first equals
sign that is not the entry's first character. -/
def environmentEntry? (entry : String) : Option (String × String) :=
  match entry.toList with
  | [] => none
  | c :: cs =>
    let name := cs.takeWhile (· != '=')
    if name.length < cs.length then
      some (String.ofList (c :: name), String.ofList (cs.drop (name.length + 1)))
    else none

def ofVariables (environment : List (String × String)) : List (String × Setting) :=
  environment.filterMap fun (name, value) => (variablePath? name).map (·, text value)

end Setting
end TradeTracker

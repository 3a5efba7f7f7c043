import TradeTracker.Text.Digits

/-! The arguments of the command line. Every option has a long name and a value, which follows it
or stands behind an equals sign; an option of the program comes before the command. -/
namespace TradeTracker

inductive Command
  /-- Classify an account's recent transactions. -/
  | trades (account : String) (limit : Nat)
  /-- Classify a stored snapshot. -/
  | classify (file account : String)
  /-- Derive the protocol's metrics. -/
  | metrics (reserve : UInt64) (price : String)
deriving DecidableEq, Repr

structure CommandLine where
  /-- Path of the settings. -/
  config : String
  command : Command
deriving DecidableEq, Repr

namespace CommandLine

abbrev Options := List (String × String)

inductive Mark
  | option (name : List Char) (value : Option (List Char))
  /-- Two dashes alone: no options from here on. -/
  | endOfOptions
  /-- A dash and something behind it. -/
  | short
  | word
deriving DecidableEq, Repr

def Mark.of (argument : String) : Mark :=
  match argument.toList with
  | ['-', '-'] => endOfOptions
  | '-' :: '-' :: cs =>
    option (cs.takeWhile (· != '='))
      (if cs.contains '=' then some (cs.dropWhile (· != '=')).tail else none)
  | ['-'] => word
  | '-' :: _ => short
  | _ => word

/-- An option at the front, with its value, and the arguments behind it. A value of its own is
never taken for an option. -/
def option? (names : List String) (argument : String) (rest : List String) :
    Option ((String × String) × List String) :=
  match Mark.of argument with
  | .option name value =>
    let name := String.ofList name
    if name ∈ names then
      match value, rest with
      | some value, rest => some ((name, String.ofList value), rest)
      | none, value :: rest =>
        if Mark.of value = .word then some ((name, value), rest) else none
      | none, [] => none
    else none
  | _ => none

/-- Options up to the first word, each at most once, and what is left from there; one unit of
`fuel` for each. -/
def optionsWithin (names : List String) : (fuel : Nat) → Options → List String →
    Option (Options × List String)
  | _, seen, [] => some (seen, [])
  | 0, _, _ :: _ => none
  | fuel + 1, seen, argument :: rest =>
    if Mark.of argument = .word then some (seen, argument :: rest)
    else if Mark.of argument = .endOfOptions then
      if rest = [] then some (seen, []) else none
    else
      match option? names argument rest with
      | none => none
      | some (entry, rest) =>
        if (seen.lookup entry.1).isSome then none
        else optionsWithin names fuel (seen ++ [entry]) rest

def options? (names arguments : List String) : Option (Options × List String) :=
  optionsWithin names arguments.length [] arguments

/-- A path is never empty. -/
def path? (text : String) : Option String := if text = "" then none else some text

def count? (text : String) : Option Nat := Text.unsignedBelow? UInt64.size text.toList

def commandOptions? (names arguments : List String) : Option Options := do
  let (options, rest) ← options? names arguments
  if rest = [] then some options else none

def command? : List String → Option Command
  | "trades" :: arguments => do
    let options ← commandOptions? ["account", "limit"] arguments
    let limit ← match options.lookup "limit" with
      | some text => count? text
      | none => some 100
    some (.trades (← options.lookup "account") limit)
  | "classify" :: arguments => do
    let options ← commandOptions? ["file", "account"] arguments
    some (.classify (← (options.lookup "file").bind path?) (← options.lookup "account"))
  | "metrics" :: arguments => do
    let options ← commandOptions? ["reserve-lamports", "sol-usd"] arguments
    let reserve ← (options.lookup "reserve-lamports").bind count?
    some (.metrics (UInt64.ofNat reserve) (← options.lookup "sol-usd"))
  | _ => none

def ofArguments? (arguments : List String) : Option CommandLine := do
  let (options, rest) ← options? ["config"] arguments
  let config ← match options.lookup "config" with
    | some text => path? text
    | none => some "config.toml"
  some ⟨config, ← command? rest⟩

end CommandLine
end TradeTracker

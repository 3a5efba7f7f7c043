import TradeTracker.CommandLine.Run

/-! The program. It reads files and the environment and prints; what it prints is decided
elsewhere. No connection to a node is part of it, so requests stay unanswered. -/
namespace TradeTracker

def readFile? (path : String) : IO (Option String) := do
  try return some (← IO.FS.readFile path) catch _ => return none

def environment : IO (List (String × String)) := do
  let text := (← readFile? "/proc/self/environ").getD ""
  return (text.splitOn "\x00").filterMap Setting.environmentEntry?

def pathExists (path : String) : IO Bool := do
  try
    let _ ← IO.FS.Handle.mk path .read
    return true
  catch _ => return false

def ensureSettings (path : String) : IO (Except CommandError Unit) := do
  if ← pathExists path then return .ok ()
  try
    IO.FS.writeFile path WrittenSettings.defaultFile
    return .ok ()
  catch e => return .error (.settings (.unwritable (toString e)))

def outcomeOf (line : CommandLine) : IO (Except CommandError String) := do
  match ← ensureSettings line.config with
  | .error e => return .error e
  | .ok _ =>
    let paths := Settings.candidates line.config ++ match line.command with
      | .classify file _ => [file]
      | _ => []
    let texts ← paths.mapM fun path => do return (path, ← readFile? path)
    let read := fun path => (texts.lookup path).bind id
    return line.outcome read (← environment) .unreachable

end TradeTracker

open TradeTracker in
def main (arguments : List String) : IO UInt32 := do
  let result ← match CommandLine.ofArguments? arguments with
    | none => pure .wrongUsage
    | some line => CommandResult.ofOutcome <$> outcomeOf line
  IO.print result.output
  for line in result.error do IO.eprintln line
  return UInt32.ofNat result.exitCode

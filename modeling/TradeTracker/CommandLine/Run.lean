import TradeTracker.CommandLine.Arguments
import TradeTracker.CommandLine.Directory
import TradeTracker.Protocol.Json
import TradeTracker.Scan.Account
import TradeTracker.Settings.DefaultFile
import TradeTracker.Settings.Load

/-! Running a command. What it prints and how it ends follow from its arguments, the files it
reads, the environment and the node. -/
namespace TradeTracker

inductive CommandError
  | settings (cause : SettingsError)
  | badSettings (path : String)
  | unreadableFile (path : String)
  | badSnapshot (path : String)
  | classify (cause : ClassifyError)
  | badAccount (text : String) (cause : AddressError)
  | badPrice (text : String) (cause : DecimalError)
  | fetch (cause : FetchError)
  | metrics (cause : MetricsError)
  /-- A dollar price overflows, which ends the program once the metrics are printed. -/
  | price (printed : String) (cause : MetricsError)
deriving DecidableEq, Repr

def CommandError.message : CommandError → String
  | settings cause => cause.message
  | badSettings path => "Failed to load config from " ++ path
  | unreadableFile path => "Failed to read " ++ path
  | badSnapshot path => "Invalid snapshot in " ++ path
  | classify cause => cause.message
  | badAccount text cause => "Invalid token account " ++ text ++ ": " ++ cause.message
  | badPrice text cause => "Invalid SOL price " ++ text ++ ": " ++ cause.message
  | fetch cause => cause.message
  | metrics cause => cause.message
  | price _ cause => cause.message

namespace Command

/-- One line for each trade, newest first. -/
def runTrades (settings : Settings) (node : Node) (account : String) (limit : Nat) :
    Except CommandError String := do
  let address ← (Address.read account).mapError (.badAccount account)
  let report ← (settings.registry.scan node settings.maxRetries.toNat address limit).mapError .fetch
  .ok (String.join (report.trades.map fun trade => trade.toJson.compact ++ "\n"))

def runClassify (settings : Settings) (read : String → Option String) (file account : String) :
    Except CommandError String := do
  let text ← (read file).elim (.error (.unreadableFile file)) .ok
  let snapshot ← (TransactionSnapshot.ofText? text).elim (.error (.badSnapshot file)) .ok
  let result ← (settings.registry.classify snapshot account).mapError .classify
  .ok (result.toJson.indented ++ "\n")

/-- The note on the dollar prices of both tokens. Where notes are not written the prices are not
computed either. -/
def notePrices (settings : Settings) (metrics : ProtocolMetrics) : Except MetricsError Unit :=
  if settings.showsNotes then do
    let _ ← metrics.leveragedPrice
    let _ ← metrics.stablePrice
    .ok ()
  else .ok ()

/-- The metrics of the protocol as it is now. The note on the prices comes after they are
printed. -/
def runMetrics (settings : Settings) (node : Node) (reserve : UInt64) (price : String) :
    Except CommandError String := do
  let nativePrice ← (Decimal.read price).mapError (.badPrice price)
  let snapshot ←
    (node.protocolSnapshot settings.registry.catalog reserve nativePrice).mapError .fetch
  let metrics ← snapshot.metrics.mapError .metrics
  let printed := metrics.toJson.indented ++ "\n"
  let _ ← (notePrices settings metrics).mapError (.price printed)
  .ok printed

def run (settings : Settings) (read : String → Option String) (node : Node) :
    Command → Except CommandError String
  | trades account limit => runTrades settings node account limit
  | classify file account => runClassify settings read file account
  | metrics reserve price => runMetrics settings node reserve price

end Command

/-- How a run ended. Wrong usage has no error line. -/
structure CommandResult where
  exitCode : Nat
  output : String
  error : Option String
deriving DecidableEq, Repr

namespace CommandError

def aborts : CommandError → Bool
  | settings cause => cause.aborts
  | fetch .tooMany | price .. => true
  | _ => false

def printed : CommandError → String
  | price printed _ => printed
  | _ => ""

end CommandError

namespace CommandResult

def wrongUsage : CommandResult := ⟨2, "", none⟩

/-- The first line of a text; a carriage return in front of its end goes too. -/
def firstLine (text : String) : String :=
  let line := text.toList.takeWhile (· != '\n')
  String.ofList (if line.getLast? = some '\r' then line.dropLast else line)

/-- Only the first line of a message is shown, and none where the program ends at once. -/
def ofOutcome : Except CommandError String → CommandResult
  | .ok output => ⟨0, output, none⟩
  | .error e =>
    if e.aborts then ⟨101, e.printed, none⟩ else ⟨1, "", some (firstLine ("Error: " ++ e.message))⟩

end CommandResult

namespace CommandLine

def loadSettings (path : String) (read : String → Option String)
    (environment : List (String × String)) : Except CommandError Settings :=
  let found := (Settings.candidates path).findSome? fun path => (read path).map (path, ·)
  let settings := match found with
    | some (path, text) => Settings.load path (some text) environment
    | none => Settings.load path none environment
  settings.mapError fun cause => if cause.aborts then .settings cause else .badSettings path

def outcome (line : CommandLine) (read : String → Option String)
    (environment : List (String × String)) (node : Node) : Except CommandError String := do
  let settings ← loadSettings line.config read environment
  line.command.run settings read node

end CommandLine

namespace Directory

def withSettings (directory : Directory) (path : String) : Except SettingsError Directory :=
  if directory.contains path then .ok directory
  else (directory.write path WrittenSettings.defaultFile).mapError (.unwritable ·.message)

/-- Runs a command line in a directory. The files it leaves behind differ from those it found only
if it had to write settings. -/
def run (directory : Directory) (environment : List (String × String)) (node : Node)
    (arguments : List String) : CommandResult × Directory :=
  match CommandLine.ofArguments? arguments with
  | none => (.wrongUsage, directory)
  | some line =>
    match directory.withSettings line.config with
    | .error cause => (.ofOutcome (.error (.settings cause)), directory)
    | .ok directory => (.ofOutcome (line.outcome directory.read? environment node), directory)

end Directory
end TradeTracker

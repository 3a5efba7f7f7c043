import TradeTracker.Settings.Written
import TradeTracker.Text.Blank
import TradeTracker.Token.Catalog

/-! Checked settings: an endpoint that can be one, addresses for programs and mints, and a catalog
with the protocol's tokens ahead of the others. -/
namespace TradeTracker

structure Settings where
  endpoint : String
  /-- Whether to read confirmed state, which is faster, and not finalized state, which is safer. -/
  confirmed : Bool
  /-- Attempts for each transaction. -/
  maxRetries : UInt32
  /-- Transactions fetched side by side. -/
  concurrency : UInt64
  registry : Registry
  logLevel : String

inductive SettingsError
  | unreadable
  | illFormed
  | badEndpoint (endpoint : String)
  | badAddress (owner text : String) (cause : AddressError)
  | emptySymbol (kind : AssetKind)
  /-- A token of the protocol among the extra ones. -/
  | protocolKind (symbol : String) (kind : AssetKind)
  | catalog (cause : CatalogError)
  | unwritable (reason : String)
  /-- A path that leads nowhere, which ends the program. -/
  | misplaced (cause : Setting.PlaceError)
deriving DecidableEq, Repr

namespace SettingsError

def aborts : SettingsError → Bool
  | misplaced _ => true
  | _ => false

def reason : SettingsError → String
  | unreadable => "Failed to load config"
  | illFormed => "Failed to parse config"
  | badEndpoint endpoint =>
    "Invalid RPC endpoint (must start with http:// or https://): " ++ endpoint
  | badAddress owner text cause =>
    "Invalid " ++ owner ++ " address " ++ text ++ ": " ++ cause.message
  | emptySymbol kind => "Empty symbol for " ++ kind.label ++ " token"
  | protocolKind symbol kind =>
    "Extra token " ++ symbol ++ " cannot be of kind " ++ kind.label ++ "; set it under [tokens]"
  | catalog cause => cause.message
  | unwritable reason => "Failed to write config file: " ++ reason
  | misplaced cause => cause.message

def message (e : SettingsError) : String :=
  if e.aborts then e.reason else "Configuration error: " ++ e.reason

end SettingsError

namespace Settings

/-- Reads an address with blanks around it ignored. -/
def readAddress (owner text : String) : Except SettingsError Address :=
  (Address.read (Text.trim text)).mapError (.badAddress owner text)

def isEndpoint (endpoint : String) : Bool :=
  "http://".toList.isPrefixOf endpoint.toList || "https://".toList.isPrefixOf endpoint.toList

structure TokenDefaults where
  symbol : String
  name : String
  decimals : UInt8

def stableDefaults : TokenDefaults := ⟨"hyUSD", "Hylo USD", 6⟩

def stakedStableDefaults : TokenDefaults := ⟨"sHYUSD", "Staked hyUSD", 6⟩

def leveragedDefaults : TokenDefaults := ⟨"xSOL", "Hylo Leveraged SOL", 6⟩

/-- One of the protocol's tokens. Its symbol is looked at before its mint, since it says whose
address is wrong. -/
def protocolToken (kind : AssetKind) (defaults : TokenDefaults) (token : WrittenToken) :
    Except SettingsError Token :=
  let symbol := token.symbol.getD defaults.symbol
  if Text.isBlankText symbol then .error (.emptySymbol kind)
  else
    (readAddress symbol token.mint).map fun mint => {
      mint := mint
      symbol := symbol
      name := token.name.getD defaults.name
      decimals := token.decimals.getD defaults.decimals
      kind := kind }

/-- An extra token, which is neither the stable nor the leveraged one. -/
def extraToken (extra : WrittenExtra) : Except SettingsError Token :=
  if extra.kind = .stable ∨ extra.kind = .leveragedToken then
    .error (.protocolKind extra.symbol extra.kind)
  else
    (readAddress extra.symbol extra.mint).map fun mint => {
      mint := mint
      symbol := extra.symbol
      name := extra.name.getD extra.symbol
      decimals := extra.decimals
      kind := extra.kind }

def tokenEntries (tokens : WrittenTokens) : Except SettingsError (List Token) := do
  let stable ← protocolToken .stable stableDefaults tokens.stable
  let stakedStable ← protocolToken .stakedStable stakedStableDefaults tokens.stakedStable
  let leveraged ← protocolToken .leveragedToken leveragedDefaults tokens.leveraged
  let extra ← tokens.extra.mapM extraToken
  .ok ([stable, stakedStable, leveraged] ++ extra)

/-- Checks written settings in their order: node, programs, tokens, catalog. -/
def ofWritten (written : WrittenSettings) : Except SettingsError Settings := do
  let endpoint := Text.trim written.node.endpoint
  if isEndpoint endpoint then
    let exchange ← readAddress "exchange program" written.programs.exchange
    let stabilityPool ← readAddress "stability pool program" written.programs.stabilityPool
    let entries ← tokenEntries written.tokens
    let catalog ← (Catalog.ofEntries entries).mapError .catalog
    .ok {
      endpoint := endpoint
      confirmed := written.node.confirmed.getD true
      maxRetries := max 1 (written.node.maxRetries.getD 3)
      concurrency := max 1 (written.node.concurrency.getD 8)
      registry := ⟨⟨exchange, stabilityPool⟩, catalog⟩
      logLevel := written.logLevel }
  else .error (.badEndpoint endpoint)

/-- Whether notes are written: at every level but those of errors and of warnings. A level goes by
its name in any case or by its number, and a text that is no level lets notes through. -/
def showsNotes (settings : Settings) : Bool :=
  Setting.lowered settings.logLevel ∉ ["error", "warn"] ∧
    Text.unsignedBelow? UInt64.size settings.logLevel.toList ∉ [some 1, some 2]

def default : Except SettingsError Settings := ofWritten .default

end Settings
end TradeTracker

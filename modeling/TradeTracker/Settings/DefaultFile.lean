import TradeTracker.Settings.Written

/-! The file of settings that is written where there is none. -/
namespace TradeTracker
namespace WrittenSettings

def commentLines : List String := [
  " Hylo trade tracker configuration.",
  "",
  " Every key can be overridden from the environment with the HYLO prefix and",
  " \"__\" between sections, e.g. HYLO__RPC__ENDPOINT or HYLO__PROGRAMS__EXCHANGE.",
  "",
  " [rpc]       use_confirmed_commitment: \"confirmed\" (faster) instead of \"finalized\" (safer)",
  "             max_retries: attempts per getTransaction call",
  "             concurrency: transactions fetched and classified at once",
  " [tokens]    stable / staked_stable / leveraged are the protocol mints; each",
  "             also takes optional <name>_symbol, <name>_name and <name>_decimals",
  "             keys, e.g. leveraged_decimals = 6",
  "             [[tokens.extra]] kind is one of staked_stable, reference_stable,",
  "             liquid_staking_token, native_unit, unknown",
  " [logging]   level: trace, debug, info, warn, error"]

def fileComment : String := String.join (commentLines.map fun line => "#" ++ line ++ "\n") ++ "\n"

def assignment (key value : String) : String := key ++ " = " ++ value ++ "\n"

def inQuotes (s : String) : String := "\"" ++ s ++ "\""

def optionalAssignment (key : String) (write : α → String) : Option α → String
  | some a => assignment key (write a)
  | none => ""

def nodeLines (node : WrittenNode) : String :=
  assignment "endpoint" (inQuotes node.endpoint) ++
    optionalAssignment "use_confirmed_commitment" (fun b => if b then "true" else "false")
      node.confirmed ++
    optionalAssignment "max_retries" (fun n => n.toNat.repr) node.maxRetries ++
    optionalAssignment "concurrency" (fun n => n.toNat.repr) node.concurrency

def tokenLines (base : String) (token : WrittenToken) : String :=
  assignment base (inQuotes token.mint) ++
    optionalAssignment (base ++ "_symbol") inQuotes token.symbol ++
    optionalAssignment (base ++ "_name") inQuotes token.name ++
    optionalAssignment (base ++ "_decimals") (fun n => n.toNat.repr) token.decimals

def extraLines (extra : WrittenExtra) : String :=
  "\n[[tokens.extra]]\n" ++ assignment "mint" (inQuotes extra.mint) ++
    assignment "symbol" (inQuotes extra.symbol) ++
    optionalAssignment "name" inQuotes extra.name ++
    assignment "decimals" extra.decimals.toNat.repr ++ assignment "kind" (inQuotes extra.kind.name)

def body (written : WrittenSettings) : String :=
  "[rpc]\n" ++ nodeLines written.node ++
    "\n[programs]\n" ++ assignment "exchange" (inQuotes written.programs.exchange) ++
    assignment "stability_pool" (inQuotes written.programs.stabilityPool) ++
    "\n[tokens]\n" ++ tokenLines "stable" written.tokens.stable ++
    tokenLines "staked_stable" written.tokens.stakedStable ++
    tokenLines "leveraged" written.tokens.leveraged ++
    String.join (written.tokens.extra.map extraLines) ++
    "\n[logging]\n" ++ assignment "level" (inQuotes written.logLevel)

def defaultFile : String := fileComment ++ default.body

end WrittenSettings
end TradeTracker

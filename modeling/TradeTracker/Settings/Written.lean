import TradeTracker.Settings.Section
import TradeTracker.Token.Kind

/-! Settings as they are written, with what stands for a section or a value that is left out. -/
namespace TradeTracker

structure WrittenNode where
  endpoint : String
  confirmed : Option Bool
  maxRetries : Option UInt32
  concurrency : Option UInt64
deriving DecidableEq, Repr

structure WrittenPrograms where
  exchange : String
  stabilityPool : String
deriving DecidableEq, Repr

structure WrittenToken where
  mint : String
  symbol : Option String
  name : Option String
  decimals : Option UInt8
deriving DecidableEq, Repr

structure WrittenExtra where
  mint : String
  symbol : String
  name : Option String
  decimals : UInt8
  kind : AssetKind
deriving DecidableEq, Repr

structure WrittenTokens where
  stable : WrittenToken
  stakedStable : WrittenToken
  leveraged : WrittenToken
  extra : List WrittenExtra
deriving DecidableEq, Repr

structure WrittenSettings where
  node : WrittenNode
  programs : WrittenPrograms
  tokens : WrittenTokens
  logLevel : String
deriving DecidableEq, Repr

namespace WrittenNode

def default : WrittenNode :=
  ⟨"https://api.mainnet-beta.solana.com", some true, some 3, some 8⟩

def ofSetting? (v : Setting) : Option WrittenNode := do
  let given ← v.section? ["endpoint", "use_confirmed_commitment", "max_retries", "concurrency"]
  some {
    endpoint := ← Setting.required given "endpoint" Setting.text?
    confirmed := ← Setting.optional given "use_confirmed_commitment" Setting.flag?
    maxRetries := ← Setting.optional given "max_retries" Setting.count32?
    concurrency := ← Setting.optional given "concurrency" Setting.count64? }

end WrittenNode

namespace WrittenPrograms

def default : WrittenPrograms :=
  ⟨"HYEXCHtHkBagdStcJCp3xbbb9B7sdMdWXFNj6mdsG4hn", "HysTabVUfmQBFcmzu1ctRd1Y1fxd66RBpboy1bmtDSQQ"⟩

def ofSetting? (v : Setting) : Option WrittenPrograms := do
  let given ← v.section? ["exchange", "stability_pool"]
  some {
    exchange := ← Setting.required given "exchange" Setting.text?
    stabilityPool := ← Setting.required given "stability_pool" Setting.text? }

end WrittenPrograms

namespace WrittenToken

def ofSection? (given : List (String × Setting)) (base : String) : Option WrittenToken := do
  some {
    mint := ← Setting.required given base Setting.text?
    symbol := ← Setting.optional given (base ++ "_symbol") Setting.text?
    name := ← Setting.optional given (base ++ "_name") Setting.text?
    decimals := ← Setting.optional given (base ++ "_decimals") Setting.count8? }

def keys (base : String) : List String :=
  [base, base ++ "_symbol", base ++ "_name", base ++ "_decimals"]

end WrittenToken

namespace WrittenExtra

def ofSetting? (v : Setting) : Option WrittenExtra := do
  let given ← v.section? ["mint", "symbol", "name", "decimals", "kind"]
  some {
    mint := ← Setting.required given "mint" Setting.text?
    symbol := ← Setting.required given "symbol" Setting.text?
    name := ← Setting.optional given "name" Setting.text?
    decimals := ← Setting.required given "decimals" Setting.count8?
    kind := ← Setting.required given "kind" (Setting.oneOf? AssetKind.choices) }

def defaults : List WrittenExtra := [
  ⟨"EPjFWdd5AufqSSqeM2qN1xzybapC8G4wEGGkZwyTDt1v", "USDC", some "USD Coin", 6,
    .referenceStable⟩,
  ⟨"Es9vMFrzaCERmJfrF4H2FYD4KCoNkY11McCe8BenwNYB", "USDT", some "Tether USD", 6,
    .referenceStable⟩,
  ⟨"J1toso1uCk3RLmjorhTtrVwY9HJ7X8V9yYac6Y7kGCPn", "JitoSOL", some "Jito Staked SOL", 9,
    .liquidStakingToken⟩,
  ⟨"mSoLzYCxHdYgdzU16g5QSh3i5K3z3KZK7ytfqcJm7So", "mSOL", some "Marinade Staked SOL", 9,
    .liquidStakingToken⟩,
  ⟨"bSo13r4TkiE4KumL71LsHTPpL2euBYLFx6h9HP3piy1", "bSOL", some "BlazeStake Staked SOL", 9,
    .liquidStakingToken⟩,
  ⟨"So11111111111111111111111111111111111111112", "WSOL", some "Wrapped SOL", 9, .nativeUnit⟩]

end WrittenExtra

namespace WrittenTokens

def default : WrittenTokens where
  stable := ⟨"5YMkXAYccHSGnHn9nob9xEvv6Pvka9DZWH7nTbotTu9E", none, none, none⟩
  stakedStable := ⟨"HnnGv3HrSqjRpgdFmx7vQGjntNEoex1SU4e9Lxcxuihz", none, none, none⟩
  leveraged := ⟨"4sWNB8zGWHkh6UnmwiEtzNxL4XrN7uK9tosbESbJFfVs", none, none, none⟩
  extra := WrittenExtra.defaults

def ofSetting? (v : Setting) : Option WrittenTokens := do
  let bases := ["stable", "staked_stable", "leveraged"]
  let given ← v.section? (bases.flatMap WrittenToken.keys ++ ["extra"])
  some {
    stable := ← WrittenToken.ofSection? given "stable"
    stakedStable := ← WrittenToken.ofSection? given "staked_stable"
    leveraged := ← WrittenToken.ofSection? given "leveraged"
    extra := ← Setting.defaulted given "extra" WrittenExtra.defaults
      (Setting.list? WrittenExtra.ofSetting?) }

end WrittenTokens

namespace WrittenSettings

def defaultLogLevel : String := "info"

def default : WrittenSettings :=
  ⟨.default, .default, .default, defaultLogLevel⟩

/-- A section that is there has to be complete; one that is not takes its defaults. -/
def ofSetting? (v : Setting) : Option WrittenSettings := do
  let given ← v.section? ["rpc", "programs", "tokens", "logging"]
  some {
    node := ← Setting.defaulted given "rpc" .default WrittenNode.ofSetting?
    programs := ← Setting.defaulted given "programs" .default WrittenPrograms.ofSetting?
    tokens := ← Setting.defaulted given "tokens" .default WrittenTokens.ofSetting?
    logLevel := ← Setting.defaulted given "logging" defaultLogLevel fun v => do
      Setting.required (← v.section? ["level"]) "level" Setting.text? }

end WrittenSettings
end TradeTracker

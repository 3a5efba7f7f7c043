import TradeTracker.Token.Catalog

/-! Trades of the leveraged token, and the three answers to whether a transaction is one. -/
namespace TradeTracker

inductive TradeSide
  | buy
  | sell
  /-- First funding of the account, with no exchange in sight. -/
  | receive
deriving DecidableEq, Repr

namespace TradeSide

def name : TradeSide → String
  | buy => "BUY"
  | sell => "SELL"
  | receive => "RECEIVE"

def choices : List (String × TradeSide) := [buy, sell, receive].map fun side => (side.name, side)

end TradeSide

inductive Intent
  | none
  | likelyMint
  | likelyRedeem
deriving DecidableEq, Repr

namespace Intent

def name : Intent → String
  | none => "none"
  | likelyMint => "likely_mint"
  | likelyRedeem => "likely_redeem"

def choices : List (String × Intent) :=
  [none, likelyMint, likelyRedeem].map fun intent => (intent.name, intent)

end Intent

/-- How the side of a trade was established. Instructions are never decoded, so every side is read
off the tracked balance. -/
inductive TradeEvidence
  /-- The exchange was called. -/
  | inferred (intent : Intent)
  /-- No call to the exchange. -/
  | balanceDiff
  /-- Tokens came in without any exchange. -/
  | unknown
deriving DecidableEq, Repr

inductive CounterSource
  /-- A token of the catalog. -/
  | catalog
  /-- A token the catalog lacks. -/
  | unlistedMint
  /-- A change of lamports, taken for the native unit. -/
  | nativeBalance
  /-- Nothing moved the right way. -/
  | default
deriving DecidableEq, Repr

namespace CounterSource

def name : CounterSource → String
  | catalog => "catalog"
  | unlistedMint => "unlisted_mint"
  | nativeBalance => "native_balance"
  | default => "default"

def choices : List (String × CounterSource) :=
  [catalog, unlistedMint, nativeBalance, default].map fun source => (source.name, source)

end CounterSource

/-- A classified trade. The counter fields are absent when tokens only came in. -/
structure Trade where
  signature : String
  slot : UInt64
  /-- Unix seconds, 0 where the node reported none. -/
  blockTime : Int64
  side : TradeSide
  /-- Base units of the tracked token. -/
  rawAmount : UInt64
  amount : String
  counterSymbol : Option String
  /-- Absent for the native unit too. -/
  counterMint : Option Address
  counterRawAmount : Option UInt64
  counterAmount : Option String
  counterSource : Option CounterSource
  /-- Implied price in dollars, where the counter asset is the stable token. -/
  usdPrice : Option String
  evidence : TradeEvidence
  explorerUrl : String
deriving DecidableEq, Repr

def explorerUrl (signature : String) : String := "https://solscan.io/tx/" ++ signature

namespace Trade

def withPrice (trade : Trade) (price : Option String) : Trade := { trade with usdPrice := price }

/-- One line of prose; the counter side is left out unless both its parts are known. -/
def description (trade : Trade) : String :=
  let moved := trade.side.name ++ " " ++ trade.amount
  match trade.counterAmount, trade.counterSymbol with
  | some amount, some symbol => moved ++ " for " ++ amount ++ " " ++ symbol
  | _, _ => moved

end Trade

inductive TradeResult
  | trade (trade : Trade)
  | notATrade
  | error (message : String)
deriving DecidableEq, Repr

namespace TradeResult

def trade? : TradeResult → Option Trade
  | trade t => some t
  | _ => none

def error? : TradeResult → Option String
  | error message => some message
  | _ => none

def isNotATrade : TradeResult → Bool
  | notATrade => true
  | _ => false

end TradeResult
end TradeTracker

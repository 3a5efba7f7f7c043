import TradeTracker.Json.Record
import TradeTracker.Trade.Basic
import TradeTracker.Transaction.SnapshotJson

/-! Stored trades. Optional fields are left out where there is nothing to say, and reading gives
back every trade that writing produced. -/
namespace TradeTracker
open Json

namespace TradeEvidence

def toJson : TradeEvidence → Json
  | inferred intent => .obj [("basis", .str "inferred"), ("intent", .str intent.name)]
  | balanceDiff => .obj [("basis", .str "balance_diff")]
  | unknown => .obj [("basis", .str "unknown")]

inductive Basis
  | inferred
  | balanceDiff
  | unknown
deriving DecidableEq, Repr

def Basis.choices : List (String × Basis) :=
  [("inferred", inferred), ("balance_diff", balanceDiff), ("unknown", unknown)]

/-- Evidence of a kind; only what is inferred has an intent behind it. -/
def ofBasis? (intent : Option Json) : Basis → Option TradeEvidence
  | .inferred => (intent.bind (oneOf? Intent.choices)).map inferred
  | .balanceDiff => match intent with
    | none | some null => some balanceDiff
    | some _ => none
  | .unknown => match intent with
    | none | some null => some unknown
    | some _ => none

/-- Reads evidence from its two members, or from a pair of kind and intent, where the kind is a bare
text. -/
def ofJson? (v : Json) : Option TradeEvidence := do
  let r ← Record.read ["basis", "intent"] v
  let kind :=
    if r.named then oneOf? Basis.choices else parsed? fun name => Basis.choices.lookup name
  let basis ← r.required "basis" kind
  if r.named ∨ r.given.length = 2 then ofBasis? (r.field? "intent") basis else none

end TradeEvidence

namespace Trade

def toJson (trade : Trade) : Json :=
  .obj ([
    ("signature", .str trade.signature),
    ("slot", ofNat trade.slot.toNat),
    ("blockTime", ofInt trade.blockTime.toInt),
    ("side", .str trade.side.name),
    ("xsolAmountRaw", ofNat trade.rawAmount.toNat),
    ("xsolAmount", .str trade.amount)] ++
    optionalMember "counterAsset" .str trade.counterSymbol ++
    optionalMember "counterMint" Address.toJson trade.counterMint ++
    optionalMember "counterAmountRaw" (fun n => ofNat n.toNat) trade.counterRawAmount ++
    optionalMember "counterAmount" .str trade.counterAmount ++
    optionalMember "counterSource" (fun source => .str source.name) trade.counterSource ++
    optionalMember "historicalPriceUSD" .str trade.usdPrice ++
    [("evidence", trade.evidence.toJson),
     ("explorerUrl", .str trade.explorerUrl)])

/-- The fields of a trade in their fixed order. -/
def fieldNames : List String :=
  ["signature", "slot", "blockTime", "side", "xsolAmountRaw", "xsolAmount", "counterAsset",
    "counterMint", "counterAmountRaw", "counterAmount", "counterSource", "historicalPriceUSD",
    "evidence", "explorerUrl"]

def ofJson? (v : Json) : Option Trade := do
  let r ← Record.read fieldNames v
  some {
    signature := ← r.required "signature" string?
    slot := ← r.required "slot" uint64?
    blockTime := ← r.required "blockTime" int64?
    side := ← r.required "side" (oneOf? TradeSide.choices)
    rawAmount := ← r.required "xsolAmountRaw" uint64?
    amount := ← r.required "xsolAmount" string?
    counterSymbol := ← r.nullable "counterAsset" string?
    counterMint := ← r.optional "counterMint" Address.ofJson?
    counterRawAmount := ← r.nullable "counterAmountRaw" uint64?
    counterAmount := ← r.nullable "counterAmount" string?
    counterSource := ← r.nullable "counterSource" (oneOf? CounterSource.choices)
    usdPrice := ← r.nullable "historicalPriceUSD" string?
    evidence := ← r.required "evidence" TradeEvidence.ofJson?
    explorerUrl := ← r.required "explorerUrl" string? }

end Trade

def TradeResult.toJson : TradeResult → Json
  | trade t => .obj [("trade", t.toJson)]
  | error message => .obj [("error", .str message)]
  | notATrade => .obj []

end TradeTracker

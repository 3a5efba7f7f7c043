import TradeTracker.Json.Printer
import TradeTracker.Json.Record
import TradeTracker.Protocol.Metrics

/-! Stored protocol snapshots and metrics. Decimals are written as text, so that no digit is
lost. -/
namespace TradeTracker
open Json

def Decimal.toJson (d : Decimal) : Json := .str d.text

def Decimal.ofJson? : Decoder Decimal := parsed? Decimal.read?

namespace ProtocolSnapshot

def toJson (snapshot : ProtocolSnapshot) : Json :=
  .obj [
    ("timestamp", ofInt snapshot.timestamp.toInt),
    ("slot", ofNat snapshot.slot.toNat),
    ("stableSupplyRaw", ofNat snapshot.rawStableSupply.toNat),
    ("leveragedSupplyRaw", ofNat snapshot.rawLeveragedSupply.toNat),
    ("stableDecimals", ofNat snapshot.stableDecimals.toNat),
    ("leveragedDecimals", ofNat snapshot.leveragedDecimals.toNat),
    ("reserveLamports", ofNat snapshot.reserve.toNat),
    ("nativeUsdPrice", snapshot.nativePrice.toJson)]

def fieldNames : List String :=
  ["timestamp", "slot", "stableSupplyRaw", "leveragedSupplyRaw", "stableDecimals",
    "leveragedDecimals", "reserveLamports", "nativeUsdPrice"]

def ofJson? (v : Json) : Option ProtocolSnapshot := do
  let r ← Record.read fieldNames v
  some {
    timestamp := ← r.required "timestamp" int64?
    slot := ← r.required "slot" uint64?
    rawStableSupply := ← r.required "stableSupplyRaw" uint64?
    rawLeveragedSupply := ← r.required "leveragedSupplyRaw" uint64?
    stableDecimals := ← r.required "stableDecimals" uint8?
    leveragedDecimals := ← r.required "leveragedDecimals" uint8?
    reserve := ← r.required "reserveLamports" uint64?
    nativePrice := ← r.required "nativeUsdPrice" Decimal.ofJson? }

end ProtocolSnapshot

def ProtocolMetrics.toJson (metrics : ProtocolMetrics) : Json :=
  .obj [
    ("stableNav", metrics.stableNav.toJson),
    ("leveragedNav", metrics.leveragedNav.toJson),
    ("collateralRatio", metrics.collateralRatio.toJson),
    ("effectiveLeverage", metrics.effectiveLeverage.toJson),
    ("nativeUsdPrice", metrics.nativePrice.toJson)]

end TradeTracker

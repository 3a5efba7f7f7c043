import TradeTracker.Trade.Json

/-! The report of a scan over many transactions. Every transaction is a trade, a failure or
neither, and the finished report is sorted, so that it does not depend on the order in which
outcomes came in. -/
namespace TradeTracker

structure ScanFailure where
  signature : String
  reason : String
deriving DecidableEq, Repr

structure ScanReport where
  trades : List Trade
  failures : List ScanFailure
  /-- Transactions looked at. -/
  scanned : Nat
deriving DecidableEq, Repr

abbrev ScanOutcome := Except String TradeResult

namespace ScanReport

def empty : ScanReport := ⟨[], [], 0⟩

def record (report : ScanReport) (signature : String) (outcome : ScanOutcome) : ScanReport :=
  let report := { report with scanned := report.scanned + 1 }
  match outcome with
  | .ok (.trade trade) => { report with trades := report.trades ++ [trade] }
  | .ok .notATrade => report
  | .ok (.error reason) | .error reason =>
    { report with failures := report.failures ++ [⟨signature, reason⟩] }

/-- Newest slot first, equal slots by signature. -/
def tradeOrder (a b : Trade) : Bool :=
  b.slot < a.slot || (a.slot == b.slot && a.signature ≤ b.signature)

def failureOrder (a b : ScanFailure) : Bool := a.signature ≤ b.signature

/-- Sorts the report; what the order leaves open stays as it was recorded. -/
def finish (report : ScanReport) : ScanReport :=
  { report with
    trades := report.trades.mergeSort tradeOrder
    failures := report.failures.mergeSort failureOrder }

def ofOutcomes (outcomes : List (String × ScanOutcome)) : ScanReport :=
  (outcomes.foldl (fun report (signature, outcome) => report.record signature outcome) empty).finish

open Json in
def toJson (report : ScanReport) : Json :=
  .obj [
    ("trades", ofList Trade.toJson report.trades),
    ("failures", ofList
      (fun failure => .obj [("signature", .str failure.signature), ("reason", .str failure.reason)])
      report.failures),
    ("scanned", ofNat report.scanned)]

end ScanReport
end TradeTracker

import TradeTracker.Node.Fetch
import TradeTracker.Node.Paging
import TradeTracker.Scan.Report
import TradeTracker.Trade.Classification

/-! Scanning an account's history. Transactions are fetched side by side and complete in any order;
a transaction that fails to be fetched or classified is a failure in the report and disturbs no
other. -/
namespace TradeTracker
namespace Registry

def scanOne (registry : Registry) (node : Node) (maxRetries : Nat) (account : Address)
    (signature : Signature) : ScanOutcome :=
  match node.fetchSnapshot maxRetries signature with
  | .error e => .error e.message
  | .ok snapshot => (registry.classifyAccount snapshot account).mapError ClassifyError.message

/-- The report on fetches in the order in which they completed, each with the node as it was found
then. -/
def scanFetches (registry : Registry) (maxRetries : Nat) (account : Address)
    (completed : List (Signature × Node)) : ScanReport :=
  .ofOutcomes (completed.map fun (signature, node) =>
    (signature.text, registry.scanOne node maxRetries account signature))

def scanCompleted (registry : Registry) (node : Node) (maxRetries : Nat) (account : Address)
    (completed : List Signature) : ScanReport :=
  registry.scanFetches maxRetries account (completed.map (·, node))

def scan (registry : Registry) (node : Node) (maxRetries : Nat) (account : Address) (limit : Nat) :
    Except FetchError ScanReport :=
  (node.recentSignatures account limit).map (registry.scanCompleted node maxRetries account)

end Registry
end TradeTracker

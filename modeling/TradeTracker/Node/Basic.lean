import TradeTracker.Protocol.Metrics
import TradeTracker.Transaction.Response

/-! A node of the network, as the answers it gives. An answer may depend on how often the node was
asked before, since history grows and requests fail now and then. -/
namespace TradeTracker

inductive NodeError
  | unreachable
  /-- The node answered with an error of its own. -/
  | rejected (code : Int) (message : String)
  /-- The answer has the wrong form. -/
  | malformed
deriving DecidableEq, Repr

def NodeError.message : NodeError → String
  | unreachable => "RPC error: no answer"
  | rejected code message => "RPC error: RPC response error " ++ code.repr ++ ": " ++ message ++ " "
  | malformed => "RPC error: answer of the wrong form"

structure HistoryEntry where
  signature : String
  failed : Bool
deriving DecidableEq, Repr

/-- A request for entries strictly older than a signature, newest first, at most `limit` of them. -/
structure PageRequest where
  account : Address
  before : Option Signature
  limit : Nat
deriving DecidableEq, Repr

structure TokenSupply where
  amount : String
  decimals : UInt8
deriving DecidableEq, Repr

/-- The answers of a node; the numbers count requests from 0. -/
structure Node where
  page : Nat → PageRequest → Except NodeError (List HistoryEntry)
  transaction : Nat → Signature → Except NodeError TransactionResponse
  slot : Except NodeError UInt64
  supply : Address → Except NodeError TokenSupply
  blockTime : UInt64 → Except NodeError Int64

def Node.unreachable : Node where
  page _ _ := .error .unreachable
  transaction _ _ := .error .unreachable
  slot := .error .unreachable
  supply _ := .error .unreachable
  blockTime _ := .error .unreachable

inductive FetchError
  | node (cause : NodeError)
  | badSignature (text : String) (cause : SignatureError)
  | badSupply (mint : Address) (cause : AmountError)
  | conversion (cause : ConversionError)
  | notFound (signature : Signature) (attempts : Nat)
  /-- More signatures than fit any memory, which ends the program. -/
  | tooMany
deriving DecidableEq, Repr

def FetchError.message : FetchError → String
  | node cause => cause.message
  | badSignature text cause =>
    "Invalid response format: Invalid signature " ++ text ++ ": " ++ cause.message
  | badSupply mint cause =>
    "Invalid response format: Supply of " ++ mint.text ++ ": " ++ cause.message
  | conversion cause => cause.message
  | notFound signature attempts =>
    "Transaction " ++ signature.text ++ " not found after " ++ attempts.repr ++ " attempts"
  | tooMany => "capacity overflow"

end TradeTracker

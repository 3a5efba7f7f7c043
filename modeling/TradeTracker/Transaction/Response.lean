import TradeTracker.Transaction.Fault
import TradeTracker.Transaction.Snapshot

/-! What a node reports about a confirmed transaction, and the snapshot in it. A message comes raw,
with calls by position, or parsed, with programs by address; both lead to the same snapshot. -/
namespace TradeTracker

/-- A program call with everything by position. The height is 1 for an outer instruction. -/
structure CompiledCall where
  programIndex : UInt8
  accounts : List UInt8
  data : String
  height : Option UInt32
deriving DecidableEq, Repr

inductive ReportedCall
  | compiled (call : CompiledCall)
  /-- The node knows the program; neither accounts nor data are left. -/
  | parsed (program : String) (height : Option UInt32)
  /-- The node does not know the program. -/
  | addressed (program : String) (accounts : List String) (data : String) (height : Option UInt32)
deriving DecidableEq, Repr

def ReportedCall.height : ReportedCall → Option UInt32
  | compiled call => call.height
  | parsed _ height => height
  | addressed _ _ _ height => height

/-- Only a parsed message lists loaded addresses among its account keys. -/
inductive ReportedMessage
  | raw (accountKeys : List String) (calls : List CompiledCall)
  | parsed (accountKeys : List String) (calls : List ReportedCall)
deriving DecidableEq, Repr

/-- The encodings a node offers, of which one can be read. -/
inductive ReportedTransaction
  | json (signatures : List String) (message : ReportedMessage)
  | otherEncoding
deriving DecidableEq, Repr

structure ReportedBalance where
  accountIndex : UInt8
  mint : String
  amount : String
  decimals : UInt8
deriving DecidableEq, Repr

/-- What a node reports about an execution. A list it leaves out is empty. -/
structure ReportedMeta where
  fault : Option TransactionFault
  preBalances : List UInt64
  postBalances : List UInt64
  /-- The inner calls of one outer call after the other. -/
  innerCalls : List (List ReportedCall)
  preTokenBalances : List ReportedBalance
  postTokenBalances : List ReportedBalance
  loadedWritable : List String
  loadedReadonly : List String
deriving DecidableEq, Repr

structure TransactionResponse where
  slot : UInt64
  blockTime : Option Int64
  transaction : ReportedTransaction
  metadata : Option ReportedMeta
deriving DecidableEq, Repr

inductive ConversionError
  | otherEncoding
  | noSignature
  | badKey (text : String) (cause : AddressError)
  | badMint (cause : AddressError)
deriving DecidableEq, Repr

/-- The message without the words that say what failed. -/
def ConversionError.detail : ConversionError → String
  | otherEncoding => "Transaction not in JSON format"
  | noSignature => "No signature found"
  | badKey text cause => "Invalid pubkey " ++ text ++ ": " ++ cause.message
  | badMint cause => "Invalid mint address: " ++ cause.message

def ConversionError.isForm : ConversionError → Bool
  | otherEncoding => true
  | _ => false

def ConversionError.message (e : ConversionError) : String :=
  (if e.isForm then "Invalid response format: " else "Failed to parse transaction: ") ++ e.detail

namespace ReportedCall

/-- Depth of a call: one less than its height, and `depth` where the node gave no height. -/
def depthOr (depth : UInt8) : Option UInt32 → UInt8
  | some height => UInt8.ofNat (min 255 (height.toNat - 1))
  | none => depth

/-- The position of an address that a call can name: among the first 256 keys. -/
def position? (keys : List Address) (text : String) : Option UInt8 := do
  let address ← Address.read? text
  let index ← keys.idxOf? address
  if index < 256 then some (UInt8.ofNat index) else none

/-- The call by position. One whose program is not among the keys has none, and accounts that are
not among them are left out. -/
def invocation? (keys : List Address) (depth : UInt8) : ReportedCall → Option Invocation
  | compiled call =>
    some ⟨call.programIndex, call.accounts, call.data, depthOr depth call.height⟩
  | parsed program height =>
    (position? keys program).map fun index => ⟨index, [], "", depthOr depth height⟩
  | addressed program accounts data height =>
    (position? keys program).map fun index =>
      ⟨index, accounts.filterMap (position? keys), data, depthOr depth height⟩

end ReportedCall

namespace ReportedMessage

def accountKeys : ReportedMessage → List String
  | raw keys _ => keys
  | parsed keys _ => keys

def calls : ReportedMessage → List ReportedCall
  | raw _ calls => calls.map .compiled
  | parsed _ calls => calls

/-- The keys that a message takes from lookup tables: none if it lists them itself. -/
def loadedKeys (message : ReportedMessage) (m : Option ReportedMeta) : List String :=
  match message, m with
  | raw _ _, some m => m.loadedWritable ++ m.loadedReadonly
  | _, _ => []

end ReportedMessage

namespace TransactionSnapshot

def readKeys (texts : List String) : Except ConversionError (List Address) :=
  texts.mapM fun text => (Address.read text).mapError (.badKey text)

def readBalance (balance : ReportedBalance) : Except ConversionError TokenBalance :=
  match Address.read balance.mint with
  | .ok mint => .ok ⟨balance.accountIndex, mint, balance.amount, balance.decimals⟩
  | .error cause => .error (.badMint cause)

def readMeta (m : ReportedMeta) : Except ConversionError TransactionMeta := do
  let pre ← m.preTokenBalances.mapM readBalance
  let post ← m.postTokenBalances.mapM readBalance
  .ok ⟨m.fault.map TransactionFault.text, m.preBalances, m.postBalances, pre, post⟩

def invocationsOf (keys : List Address) (outer : List ReportedCall)
    (inner : List (List ReportedCall)) : List Invocation :=
  outer.filterMap (ReportedCall.invocation? keys 0) ++
    inner.flatten.filterMap (ReportedCall.invocation? keys 1)

/-- The snapshot in a response. Keys are looked at before balances. -/
def ofResponse (response : TransactionResponse) : Except ConversionError TransactionSnapshot :=
  match response.transaction with
  | .otherEncoding => .error .otherEncoding
  | .json [] _ => .error .noSignature
  | .json (signature :: _) message => do
    let keys ← readKeys (message.accountKeys ++ message.loadedKeys response.metadata)
    let metadata ← response.metadata.mapM readMeta
    .ok {
      signature := signature
      slot := response.slot
      blockTime := response.blockTime
      accountKeys := keys
      invocations :=
        invocationsOf keys message.calls ((response.metadata.map (·.innerCalls)).getD [])
      metadata := metadata }

end TransactionSnapshot
end TradeTracker

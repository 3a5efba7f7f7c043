import TradeTracker.Transaction.Response

/-! Reading a node's report of a transaction. Where several forms are possible the first that
fits is taken; a field that nobody needs has to have its form all the same. -/
namespace TradeTracker
open Json

namespace CompiledCall

def ofJson? (v : Json) : Option CompiledCall := do
  let r ← Record.read ["programIdIndex", "accounts", "data", "stackHeight"] v
  some {
    programIndex := ← r.required "programIdIndex" uint8?
    accounts := ← r.required "accounts" (list? uint8?)
    data := ← r.required "data" string?
    height := ← r.nullable "stackHeight" uint32? }

end CompiledCall

namespace ReportedCall

def parsedOfJson? (v : Json) : Option ReportedCall := do
  let r ← Record.read ["program", "programId", "parsed", "stackHeight"] v
  let _ ← r.required "program" string?
  let program ← r.required "programId" string?
  let _ ← r.required "parsed" some
  let height ← r.nullable "stackHeight" uint32?
  some (parsed program height)

def addressedOfJson? (v : Json) : Option ReportedCall := do
  let r ← Record.read ["programId", "accounts", "data", "stackHeight"] v
  let program ← r.required "programId" string?
  let accounts ← r.required "accounts" (list? string?)
  let data ← r.required "data" string?
  let height ← r.nullable "stackHeight" uint32?
  some (addressed program accounts data height)

def ofJson? (v : Json) : Option ReportedCall :=
  ((CompiledCall.ofJson? v).map compiled).or ((parsedOfJson? v).or (addressedOfJson? v))

def groupOfJson? (v : Json) : Option (List ReportedCall) := do
  let r ← Record.read ["index", "instructions"] v
  let _ ← r.required "index" uint8?
  r.required "instructions" (list? ofJson?)

end ReportedCall

def accountOfJson? (v : Json) : Option String := do
  let r ← Record.read ["pubkey", "writable", "signer", "source"] v
  let key ← r.required "pubkey" string?
  let _ ← r.required "writable" bool?
  let _ ← r.required "signer" bool?
  let _ ← r.nullable "source" (oneOf? [("transaction", ()), ("lookupTable", ())])
  some key

def isTableLookup? (v : Json) : Option Unit := do
  let r ← Record.read ["accountKey", "writableIndexes", "readonlyIndexes"] v
  let _ ← r.required "accountKey" string?
  let _ ← r.required "writableIndexes" (list? uint8?)
  let _ ← r.required "readonlyIndexes" (list? uint8?)
  some ()

def isHeader? (v : Json) : Option Unit := do
  let r ← Record.read
    ["numRequiredSignatures", "numReadonlySignedAccounts", "numReadonlyUnsignedAccounts"] v
  let _ ← r.required "numRequiredSignatures" uint8?
  let _ ← r.required "numReadonlySignedAccounts" uint8?
  let _ ← r.required "numReadonlyUnsignedAccounts" uint8?
  some ()

namespace ReportedMessage

def parsedOfJson? (v : Json) : Option ReportedMessage := do
  let r ← Record.read ["accountKeys", "recentBlockhash", "instructions", "addressTableLookups"] v
  let keys ← r.required "accountKeys" (list? accountOfJson?)
  let _ ← r.required "recentBlockhash" string?
  let calls ← r.required "instructions" (list? ReportedCall.ofJson?)
  let _ ← r.optional "addressTableLookups" (list? isTableLookup?)
  some (parsed keys calls)

def rawOfJson? (v : Json) : Option ReportedMessage := do
  let r ← Record.read
    ["header", "accountKeys", "recentBlockhash", "instructions", "addressTableLookups"] v
  let _ ← r.required "header" isHeader?
  let keys ← r.required "accountKeys" (list? string?)
  let _ ← r.required "recentBlockhash" string?
  let calls ← r.required "instructions" (list? CompiledCall.ofJson?)
  let _ ← r.optional "addressTableLookups" (list? isTableLookup?)
  some (raw keys calls)

/-- A message without accounts is a parsed one whatever its calls. -/
def ofJson? (v : Json) : Option ReportedMessage := (parsedOfJson? v).or (rawOfJson? v)

end ReportedMessage

namespace ReportedTransaction

def jsonOfJson? (v : Json) : Option ReportedTransaction := do
  let r ← Record.read ["signatures", "message"] v
  let signatures ← r.required "signatures" (list? string?)
  let message ← r.required "message" ReportedMessage.ofJson?
  some (json signatures message)

def accountsOfJson? (v : Json) : Option ReportedTransaction := do
  let r ← Record.read ["signatures", "accountKeys"] v
  let _ ← r.required "signatures" (list? string?)
  let _ ← r.required "accountKeys" (list? accountOfJson?)
  some otherEncoding

/-- A text is the whole transaction in base 58; a pair names its encoding. -/
def binaryOfJson? : Json → Option ReportedTransaction
  | .str _ => some otherEncoding
  | .arr [.str _, encoding] =>
    (oneOf? [("base58", ()), ("base64", ())] encoding).map fun _ => otherEncoding
  | _ => none

def ofJson? (v : Json) : Option ReportedTransaction :=
  (binaryOfJson? v).or ((jsonOfJson? v).or (accountsOfJson? v))

end ReportedTransaction

namespace ReportedBalance

def ofJson? (v : Json) : Option ReportedBalance := do
  let r ← Record.read ["accountIndex", "mint", "uiTokenAmount", "owner", "programId"] v
  let accountIndex ← r.required "accountIndex" uint8?
  let mint ← r.required "mint" string?
  let amount ← r.required "uiTokenAmount" fun v => do
    let r ← Record.read ["uiAmount", "decimals", "amount", "uiAmountString"] v
    let _ ← r.nullable "uiAmount" number?
    let decimals ← r.required "decimals" uint8?
    let amount ← r.required "amount" string?
    let _ ← r.required "uiAmountString" string?
    some (amount, decimals)
  let _ ← r.optional "owner" string?
  let _ ← r.optional "programId" string?
  some ⟨accountIndex, mint, amount.1, amount.2⟩

end ReportedBalance

def isReward? (v : Json) : Option Unit := do
  let r ← Record.read ["pubkey", "lamports", "postBalance", "rewardType", "commission"] v
  let _ ← r.required "pubkey" string?
  let _ ← r.required "lamports" int64?
  let _ ← r.required "postBalance" uint64?
  let _ ← r.nullable "rewardType"
    (oneOfLoose? [("Fee", ()), ("Rent", ()), ("Staking", ()), ("Voting", ())])
  let _ ← r.nullable "commission" uint8?
  some ()

def isReturnData? (v : Json) : Option Unit := do
  let r ← Record.read ["programId", "data"] v
  let _ ← r.required "programId" string?
  r.required "data" fun
    | .arr [.str _, encoding] => oneOfLoose? [("base64", ())] encoding
    | _ => none

def isStatus? : Json → Option Unit
  | .obj [("Ok", null)] => some ()
  | .obj [("Ok", .obj [])] => some ()
  | .obj [("Err", fault)] => (TransactionFault.ofJson? fault).map fun _ => ()
  | _ => none

namespace ReportedMeta

def loadedOfJson? (v : Json) : Option (List String × List String) := do
  let r ← Record.read ["writable", "readonly"] v
  some (← r.required "writable" (list? string?), ← r.required "readonly" (list? string?))

def fieldNames : List String :=
  ["err", "status", "fee", "preBalances", "postBalances", "innerInstructions", "logMessages",
    "preTokenBalances", "postTokenBalances", "rewards", "loadedAddresses", "returnData",
    "computeUnitsConsumed"]

def ofJson? (v : Json) : Option ReportedMeta := do
  let r ← Record.read fieldNames v
  let fault ← r.nullable "err" TransactionFault.ofJson?
  let _ ← r.required "status" isStatus?
  let _ ← r.required "fee" uint64?
  let preBalances ← r.required "preBalances" (list? uint64?)
  let postBalances ← r.required "postBalances" (list? uint64?)
  let innerCalls ← r.optional "innerInstructions" (list? ReportedCall.groupOfJson?)
  let _ ← r.optional "logMessages" (list? string?)
  let pre ← r.optional "preTokenBalances" (list? ReportedBalance.ofJson?)
  let post ← r.optional "postTokenBalances" (list? ReportedBalance.ofJson?)
  let _ ← r.optional "rewards" (list? isReward?)
  let loaded ← r.optional "loadedAddresses" loadedOfJson?
  let _ ← r.optional "returnData" isReturnData?
  let _ ← r.optional "computeUnitsConsumed" uint64?
  some {
    fault := fault
    preBalances := preBalances
    postBalances := postBalances
    innerCalls := innerCalls.getD []
    preTokenBalances := pre.getD []
    postTokenBalances := post.getD []
    loadedWritable := (loaded.map (·.1)).getD []
    loadedReadonly := (loaded.map (·.2)).getD [] }

end ReportedMeta

namespace TransactionResponse

/-- The version of a message: an old one has a name, later ones a number. -/
def isVersion? : Json → Option Unit
  | .num n => (uint8? (.num n)).map fun _ => ()
  | v => oneOf? [("legacy", ())] v

/-- A report is an object and never a list of its fields. -/
def ofJson? (v : Json) : Option TransactionResponse :=
  match v with
  | .obj _ => do
    let r ← Record.read ["slot", "transaction", "meta", "version", "blockTime"] v
    let slot ← r.required "slot" uint64?
    let transaction ← r.required "transaction" ReportedTransaction.ofJson?
    let metadata ← r.optional "meta" ReportedMeta.ofJson?
    let _ ← r.optional "version" isVersion?
    let blockTime ← r.optional "blockTime" int64?
    some ⟨slot, blockTime, transaction, metadata⟩
  | _ => none

end TransactionResponse
end TradeTracker

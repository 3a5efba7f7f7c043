import TradeTracker.Text.Blank
import TradeTracker.Trade.Counter
import TradeTracker.Trade.Intent
import TradeTracker.Trade.Price

/-! Whether a transaction trades the leveraged token for an account. Balance data that cannot be
read is part of the answer; only a caller's mistake is an error. -/
namespace TradeTracker

structure Movement where
  side : TradeSide
  rawAmount : UInt64
  decimals : UInt8
  evidence : TradeEvidence
deriving DecidableEq, Repr

namespace Movement

/-- The movement behind an exchange call, unless nothing moved. -/
def ofIntent? (intent : Intent) (change : BalanceChange) : Option Movement :=
  let moved (side : TradeSide) : Option Movement :=
    if change.size = 0 then none else some ⟨side, change.size, change.decimals, .inferred intent⟩
  match intent with
  | .likelyMint => moved .buy
  | .likelyRedeem => moved .sell
  | .none => none

/-- The movement without an exchange call. Opening an empty account moves nothing, and closing an
account is no sale. -/
def ofChange? (change : BalanceChange) : Option Movement :=
  match change.before, change.after with
  | none, some after =>
    if after = 0 then none else some ⟨.receive, after, change.decimals, .unknown⟩
  | some before, some after =>
    if before < after then some ⟨.buy, change.size, change.decimals, .balanceDiff⟩
    else if after < before then some ⟨.sell, change.size, change.decimals, .balanceDiff⟩
    else none
  | _, none => none

/-- The movement in an account that may hold some other token. -/
def ofChangeIn? (tracked : Address) (change : BalanceChange) : Option Movement :=
  if change.mint.all (· = tracked) then ofChange? change else none

end Movement

inductive ClassifyError
  | emptyAccount
  | invalidAccount (text : String) (cause : AddressError)
  | noMetadata (signature : String)
deriving DecidableEq, Repr

def ClassifyError.message (e : ClassifyError) : String :=
  "Invalid input: " ++
    match e with
    | emptyAccount => "target account address is empty"
    | invalidAccount text cause => "invalid target account " ++ text ++ ": " ++ cause.message
    | noMetadata signature => "transaction " ++ signature ++ " has no metadata"

namespace Registry

def movement (registry : Registry) (snapshot : TransactionSnapshot) (m : TransactionMeta)
    (index : Nat) : Except AmountError (Option Movement) := do
  let tracked := registry.catalog.leveraged.mint
  match ← snapshot.intent registry.programs index tracked with
  | .none => (m.tokenChange index).map (Movement.ofChangeIn? tracked)
  | intent => (m.tokenChangeOf index tracked).map (Movement.ofIntent? intent)

/-- The asset on the other side; tokens that only came in have none. -/
def counter (registry : Registry) (m : TransactionMeta) (index : Nat) (side : TradeSide) :
    Except AmountError (Option CounterAsset) :=
  match side with
  | .receive => .ok none
  | side =>
    (CounterAsset.resolve registry.catalog m index registry.catalog.leveraged.mint side).map some

def tradeOf (registry : Registry) (snapshot : TransactionSnapshot) (movement : Movement)
    (counter : Option CounterAsset) : Trade :=
  let trade : Trade := {
    signature := snapshot.signature
    slot := snapshot.slot
    blockTime := snapshot.timestamp
    side := movement.side
    rawAmount := movement.rawAmount
    amount := Amount.format movement.rawAmount movement.decimals
    counterSymbol := counter.map (·.identity.symbol)
    counterMint := counter.bind (·.identity.mint)
    counterRawAmount := counter.map (·.rawAmount)
    counterAmount := counter.map (·.amount)
    counterSource := counter.map (·.source)
    usdPrice := none
    evidence := movement.evidence
    explorerUrl := explorerUrl snapshot.signature }
  trade.withPrice (Price.ofTrade? registry.catalog trade)

def trade? (registry : Registry) (snapshot : TransactionSnapshot) (m : TransactionMeta)
    (index : Nat) : Except AmountError (Option Trade) := do
  match ← registry.movement snapshot m index with
  | none => .ok none
  | some movement =>
    (registry.counter m index movement.side).map fun counter =>
      some (registry.tradeOf snapshot movement counter)

def failedReason : String := "transaction failed"

/-- Classifies a transaction for a token account. A failed transaction is no trade of anybody, so
that is looked at before the account is. -/
def classifyAccount (registry : Registry) (snapshot : TransactionSnapshot) (account : Address) :
    Except ClassifyError TradeResult :=
  match snapshot.metadata with
  | none => .error (.noMetadata snapshot.signature)
  | some m =>
    if snapshot.isFailed then .ok (.error failedReason)
    else
      match snapshot.accountIndex? account with
      | none => .ok .notATrade
      | some index =>
        match registry.trade? snapshot m index with
        | .ok (some trade) => .ok (.trade trade)
        | .ok none => .ok .notATrade
        | .error e => .ok (.error e.message)

def classify (registry : Registry) (snapshot : TransactionSnapshot) (accountText : String) :
    Except ClassifyError TradeResult :=
  let text := Text.trim accountText
  if text = "" then .error .emptyAccount
  else
    match Address.read text with
    | .error cause => .error (.invalidAccount text cause)
    | .ok account => registry.classifyAccount snapshot account

end Registry
end TradeTracker

import TradeTracker.Node.Basic

/-! Fetching single transactions, with another attempt after every failure, and fetching the state
of the protocol. -/
namespace TradeTracker
namespace Node

def fetchWithin (node : Node) (signature : Signature) :
    (attempts : Nat) → (number : Nat) → Option TransactionResponse
  | 0, _ => none
  | attempts + 1, number =>
    match node.transaction number signature with
    | .ok response => some response
    | .error _ => fetchWithin node signature attempts (number + 1)

/-- The transaction behind a signature; at least one attempt is made. -/
def fetchTransaction (node : Node) (maxRetries : Nat) (signature : Signature) :
    Except FetchError TransactionResponse :=
  let attempts := max 1 maxRetries
  match node.fetchWithin signature attempts 0 with
  | some response => .ok response
  | none => .error (.notFound signature attempts)

def fetchSnapshot (node : Node) (maxRetries : Nat) (signature : Signature) :
    Except FetchError TransactionSnapshot := do
  let response ← node.fetchTransaction maxRetries signature
  (TransactionSnapshot.ofResponse response).mapError .conversion

def tokenSupply (node : Node) (mint : Address) : Except FetchError (UInt64 × UInt8) := do
  let supply ← (node.supply mint).mapError .node
  match Amount.parseRaw supply.amount with
  | .ok raw => .ok (raw, supply.decimals)
  | .error cause => .error (.badSupply mint cause)

/-- Both supplies at the current slot, with a reserve and a price the caller knows. A block time
that is not to be had is 0. -/
def protocolSnapshot (node : Node) (catalog : Catalog) (reserve : UInt64) (nativePrice : Decimal) :
    Except FetchError ProtocolSnapshot := do
  let slot ← node.slot.mapError .node
  let (rawStableSupply, stableDecimals) ← node.tokenSupply catalog.stable.mint
  let (rawLeveragedSupply, leveragedDecimals) ← node.tokenSupply catalog.leveraged.mint
  .ok {
    timestamp := (node.blockTime slot).toOption.getD 0
    slot := slot
    rawStableSupply := rawStableSupply
    rawLeveragedSupply := rawLeveragedSupply
    stableDecimals := stableDecimals
    leveragedDecimals := leveragedDecimals
    reserve := reserve
    nativePrice := nativePrice }

end Node
end TradeTracker

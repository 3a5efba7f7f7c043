import TradeTracker.Trade.Basic
import TradeTracker.Transaction.BalanceChange

/-! What the exchange seems to have done. The data of its calls is not decoded; where it was
called at all, the direction is read off the tracked balance. -/
namespace TradeTracker

/-- Tokens that an exchange call put into a new account were minted; otherwise the direction
decides, which needs both sides reported. -/
def Intent.ofChange (change : BalanceChange) : Intent :=
  match change.presence, change.direction with
  | .both, .increase => likelyMint
  | .both, .decrease => likelyRedeem
  | .postOnly, _ => likelyMint
  | _, _ => none

namespace TransactionSnapshot

/-- Whether the exchange is called anywhere in the transaction. -/
def callsExchange (snapshot : TransactionSnapshot) (programs : ProtocolPrograms) : Bool :=
  snapshot.invokes programs.exchange

def intent (snapshot : TransactionSnapshot) (programs : ProtocolPrograms) (index : Nat)
    (mint : Address) : Except AmountError Intent :=
  match snapshot.callsExchange programs, snapshot.metadata with
  | true, some m => (m.tokenChangeOf index mint).map Intent.ofChange
  | _, _ => .ok .none

end TransactionSnapshot
end TradeTracker

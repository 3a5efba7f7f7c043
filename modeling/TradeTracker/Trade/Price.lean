import TradeTracker.Decimal.Text
import TradeTracker.Trade.Basic

/-! The dollar price a trade implies. It is known only where the other side is the stable token,
and only inside a band; anything outside is bad data and no market price. -/
namespace TradeTracker
namespace Price

/-- The band of prices that are believed, both ends included. -/
def lowest : Decimal := .one

def highest : Decimal := .ofWhole 10000

/-- Fractional digits of a price, all of them written. -/
def places : Nat := 3

def ratio? (counter target : Decimal) : Option Decimal :=
  if counter.isPositive ∧ target.isPositive then
    (counter.div? target).filter fun price => lowest.le price ∧ price.le highest
  else none

/-- The price to its places, a half going up. -/
def shortened (price : Decimal) : Decimal := (price.roundAway places).extend places

def implied? (counterAmount targetAmount : String) : Option String := do
  let counter ← Decimal.read? counterAmount
  let target ← Decimal.read? targetAmount
  let price ← ratio? counter target
  some (shortened price).text

/-- The price a trade implies, where it was settled in the stable token. -/
def ofTrade? (catalog : Catalog) (trade : Trade) : Option String := do
  let mint ← trade.counterMint
  let counterAmount ← trade.counterAmount
  if catalog.isStableMint mint then implied? counterAmount trade.amount else none

end Price
end TradeTracker

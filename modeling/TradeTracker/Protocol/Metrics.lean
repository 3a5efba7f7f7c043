import TradeTracker.Decimal.Text
import TradeTracker.Json.Record
import TradeTracker.Token.Catalog

/-! The health of the protocol, from its two token supplies and its reserve. Values are in the
native unit unless a name says dollars. The stable token is worth one dollar, and the leveraged
token shares what the reserve holds beyond that. -/
namespace TradeTracker

structure ProtocolSnapshot where
  /-- Unix seconds. -/
  timestamp : Int64
  slot : UInt64
  rawStableSupply : UInt64
  rawLeveragedSupply : UInt64
  stableDecimals : UInt8
  leveragedDecimals : UInt8
  /-- All collateral, in lamports. -/
  reserve : UInt64
  /-- Dollars for one native unit. -/
  nativePrice : Decimal
deriving DecidableEq, Repr

structure ProtocolMetrics where
  stableNav : Decimal
  leveragedNav : Decimal
  collateralRatio : Decimal
  effectiveLeverage : Decimal
  nativePrice : Decimal
deriving DecidableEq, Repr

inductive Divisor
  | nativePrice
  | leveragedSupply
  | stableValue
  | leveragedValue
deriving DecidableEq, Repr

def Divisor.name : Divisor → String
  | nativePrice => "native USD price"
  | leveragedSupply => "leveraged supply"
  | stableValue => "stable value"
  | leveragedValue => "leveraged value"

inductive Quantity
  | stableNav
  | stableValue
  | leveragedNav
  | collateralRatio
  | leveragedValue
  | effectiveLeverage
deriving DecidableEq, Repr

def Quantity.name : Quantity → String
  | stableNav => "stable NAV"
  | stableValue => "stable value"
  | leveragedNav => "leveraged NAV"
  | collateralRatio => "collateral ratio"
  | leveragedValue => "leveraged value"
  | effectiveLeverage => "effective leverage"

inductive MetricsError
  /-- The reserve does not cover the stable supply. -/
  | nonPositiveNav (nav : Decimal)
  | zeroDivisor (divisor : Divisor)
  | unsupportedDecimals (decimals : UInt8)
  | overflow (quantity : Quantity)
  /-- What the reserve holds beyond the stable value is too large for a decimal. -/
  | surplusOverflow
  /-- A dollar price is too large for a decimal. -/
  | priceOverflow
deriving DecidableEq, Repr

/-- A net asset value is written without zeros at its end. -/
def MetricsError.message : MetricsError → String
  | nonPositiveNav nav => "Leveraged NAV is not positive: " ++ nav.normalize.text
  | zeroDivisor divisor => "Division by zero: " ++ divisor.name
  | unsupportedDecimals decimals => "Unsupported decimals: " ++ decimals.toNat.repr
  | overflow quantity => "Arithmetic overflow computing " ++ quantity.name
  | surplusOverflow => "Subtraction overflowed"
  | priceOverflow => "Multiplication overflowed"

def Decimal.units (raw : UInt64) (decimals : UInt8) : Except MetricsError Decimal :=
  if h : decimals ≤ Amount.maxDecimals then
    .ok (.ofRaw raw decimals.toNat
      (Nat.le_trans (UInt8.le_iff_toNat_le.1 h) (by decide)))
  else .error (.unsupportedDecimals decimals)

namespace ProtocolSnapshot

def known (quantity : Quantity) : Option Decimal → Except MetricsError Decimal
  | some d => .ok d
  | none => .error (.overflow quantity)

def nonzero (divisor : Divisor) (d : Decimal) : Except MetricsError Decimal :=
  if d.isZero then .error (.zeroDivisor divisor) else .ok d

/-- A dollar in native units. -/
def stableNav (nativePrice : Decimal) : Except MetricsError Decimal :=
  if nativePrice.isPositive then known .stableNav (Decimal.one.div? nativePrice)
  else .error (.zeroDivisor .nativePrice)

/-- The share of one leveraged token in what the reserve holds beyond the stable value. -/
def leveragedNav (reserve stableValue leveragedSupply : Decimal) : Except MetricsError Decimal := do
  let supply ← nonzero .leveragedSupply leveragedSupply
  let surplus ← (reserve.sub? stableValue).elim (.error .surplusOverflow) .ok
  let nav ← known .leveragedNav (surplus.div? supply)
  if nav.isPositive then .ok nav else .error (.nonPositiveNav nav)

/-- Collateral for each unit of stable value. -/
def collateralRatio (reserve stableValue : Decimal) : Except MetricsError Decimal := do
  let value ← nonzero .stableValue stableValue
  known .collateralRatio (reserve.div? value)

/-- The reserve for each unit of leveraged value. -/
def effectiveLeverage (reserve leveragedNav leveragedSupply : Decimal) :
    Except MetricsError Decimal := do
  let value ← known .leveragedValue (leveragedNav.mul? leveragedSupply)
  let value ← nonzero .leveragedValue value
  known .effectiveLeverage (reserve.div? value)

def metrics (snapshot : ProtocolSnapshot) : Except MetricsError ProtocolMetrics := do
  let stableSupply ← Decimal.units snapshot.rawStableSupply snapshot.stableDecimals
  let leveragedSupply ← Decimal.units snapshot.rawLeveragedSupply snapshot.leveragedDecimals
  let reserve ← Decimal.units snapshot.reserve nativeDecimals
  let stableNav ← stableNav snapshot.nativePrice
  let stableValue ← known .stableValue (stableNav.mul? stableSupply)
  let leveragedNav ← leveragedNav reserve stableValue leveragedSupply
  let collateralRatio ← collateralRatio reserve stableValue
  let effectiveLeverage ← effectiveLeverage reserve leveragedNav leveragedSupply
  .ok {
    stableNav := stableNav.normalize
    leveragedNav := leveragedNav.normalize
    collateralRatio := collateralRatio.normalize
    effectiveLeverage := effectiveLeverage.normalize
    nativePrice := snapshot.nativePrice }

end ProtocolSnapshot

namespace ProtocolMetrics

/-- Fractional digits of a dollar price, of which the trailing zeros are not written. -/
def pricePlaces : Nat := 12

def usdPrice (metrics : ProtocolMetrics) (nav : Decimal) : Except MetricsError Decimal :=
  (nav.mul? metrics.nativePrice).elim (.error .priceOverflow) fun price =>
    .ok (price.roundEven pricePlaces).normalize

def leveragedPrice (metrics : ProtocolMetrics) : Except MetricsError Decimal :=
  metrics.usdPrice metrics.leveragedNav

/-- One dollar, but for rounding. -/
def stablePrice (metrics : ProtocolMetrics) : Except MetricsError Decimal :=
  metrics.usdPrice metrics.stableNav

end ProtocolMetrics
end TradeTracker

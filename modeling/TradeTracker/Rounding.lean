/-! The nearest whole number to a quotient, with a rule for the middle between two. -/
namespace TradeTracker

/-- The whole number nearest to `num / den`, the even one of two. -/
def roundHalfEven (num den : Nat) : Nat :=
  let quotient := num / den
  let twice := 2 * (num % den)
  if twice < den then quotient
  else if den < twice then quotient + 1
  else quotient + quotient % 2

/-- The whole number nearest to `num / den`, the larger one of two. -/
def roundHalfUp (num den : Nat) : Nat := (2 * num + den) / (2 * den)

end TradeTracker

/-! Whole numbers that fit a signed word of 64 bits. -/
namespace TradeTracker.Word

def least : Int := -9223372036854775808

def greatest : Int := 9223372036854775807

abbrev Fits (n : Int) : Prop := least ≤ n ∧ n ≤ greatest

end TradeTracker.Word

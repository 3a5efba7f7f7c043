/-! Line ends. Some texts end their lines with a carriage return and a line feed; readers see only
the line feed. -/
namespace TradeTracker.Text

/-- The text without the carriage returns in front of line feeds. -/
def foldLineEnds : List Char → List Char
  | '\r' :: '\n' :: cs => '\n' :: foldLineEnds cs
  | c :: cs => c :: foldLineEnds cs
  | [] => []

end TradeTracker.Text

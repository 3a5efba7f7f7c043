/-! Blanks are the characters with Unicode's property White_Space; trimming removes them at both
ends. -/
namespace TradeTracker.Text

/-- The twenty-five code points with the property White_Space. -/
def isBlank (c : Char) : Bool :=
  let n := c.toNat
  (9 ≤ n && n ≤ 13) || n == 32 || n == 133 || n == 160 || n == 5760 ||
    (8192 ≤ n && n ≤ 8202) || n == 8232 || n == 8233 || n == 8239 || n == 8287 || n == 12288

def trimChars (cs : List Char) : List Char :=
  ((cs.dropWhile isBlank).reverse.dropWhile isBlank).reverse

def trim (s : String) : String := String.ofList (trimChars s.toList)

/-- A text of blanks only is as good as none. -/
def isBlankText (s : String) : Bool := s.toList.all isBlank

end TradeTracker.Text

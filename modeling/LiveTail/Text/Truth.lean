import LiveTail.Text.Quote
/-!
# Truth values in text

Six spellings mean true (`1`, `t`, `T`, `true`, `TRUE`, `True`) and six mean false
(`0`, `f`, `F`, `false`, `FALSE`, `False`); any other text is refused.
-/
namespace LiveTail

/-- Reads a truth value. -/
def parseTruth (s : String) : Except String Bool :=
  if ["1", "t", "T", "true", "TRUE", "True"].contains s then .ok true
  else if ["0", "f", "F", "false", "FALSE", "False"].contains s then .ok false
  else .error ("strconv.ParseBool: parsing " ++ Quote.quote s ++ ": invalid syntax")

end LiveTail

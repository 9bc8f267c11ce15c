import LoadBench.Text.Blank

/-! Splitting a text of options into words. -/
namespace LoadBench.Text

def isQuote (c : Char) : Bool := c == '"' || c == '\''

/-- The words of a text without the quotes around it. -/
def optionWords (s : String) : List String :=
  (words (trimBy isQuote s.toList)).map String.ofList

end LoadBench.Text

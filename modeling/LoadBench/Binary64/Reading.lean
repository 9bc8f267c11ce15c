import LoadBench.Text.Natural
import LoadBench.Binary64.Rounding

/-! Reading binary64 numbers from decimal texts, the special ones by name. -/
namespace LoadBench.Binary64

/-- The letters of ASCII in lower case. -/
def lowerAscii (cs : List Char) : List Char := cs.map Char.toLower

/-- Digits, of which there may be none, and what follows. -/
def spanDigits (cs : List Char) : List Char × List Char :=
  (cs.takeWhile Char.isDigit, cs.dropWhile Char.isDigit)

/-- The exponent behind its mark; without a mark it is zero. -/
def readExponent? (cs : List Char) : Option Int :=
  match cs with
  | [] => some 0
  | c :: cs =>
    if c = 'e' ∨ c = 'E' then Text.readInt? cs else none

/-- Digits with a point anywhere, or none, and an exponent. -/
def readDecimal? (negative : Bool) (cs : List Char) : Option Binary64 := do
  let (whole, rest) := spanDigits cs
  let (fraction, rest) := match rest with
    | '.' :: rest => spanDigits rest
    | rest => ([], rest)
  let e ← readExponent? rest
  if whole.isEmpty && fraction.isEmpty then none
  else some (ofDecimal negative (Nat.ofDigitChars 10 (whole ++ fraction) 0) (e - fraction.length))

def readUnsigned? (negative : Bool) (cs : List Char) : Option Binary64 :=
  if lowerAscii cs = ['i', 'n', 'f'] ∨ lowerAscii cs = "infinity".toList then
    some (ofMagnitude negative infinityMagnitude)
  else if lowerAscii cs = ['n', 'a', 'n'] then some nan
  else readDecimal? negative cs

/-- A number with an optional sign. -/
def read? (s : String) : Option Binary64 :=
  match s.toList with
  | '-' :: cs => readUnsigned? true cs
  | '+' :: cs => readUnsigned? false cs
  | cs => readUnsigned? false cs

end LoadBench.Binary64

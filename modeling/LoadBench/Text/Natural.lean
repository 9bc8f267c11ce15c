import LoadBench.Text.Blank

/-! Reading whole numbers in decimal and hexadecimal notation. -/
namespace LoadBench.Text

/-- Only ASCII digits, and at least one. -/
def isDigits (cs : List Char) : Bool := !cs.isEmpty && cs.all Char.isDigit

/-- A non-empty run of ASCII digits, of any length. -/
def readDigits? (cs : List Char) : Option Nat :=
  if isDigits cs then some (Nat.ofDigitChars 10 cs 0) else none

/-- Digits with an optional plus sign, of a value below `bound`. -/
def readUnsigned? (bound : Nat) (cs : List Char) : Option Nat := do
  let n ← readDigits? (match cs with | '+' :: ds => ds | ds => ds)
  if n < bound then some n else none

def readUInt32? (cs : List Char) : Option UInt32 :=
  (readUnsigned? UInt32.size cs).map UInt32.ofNat

/-- Digits with an optional sign, of any value. -/
def readInt? (cs : List Char) : Option Int :=
  match cs with
  | '-' :: ds => (readDigits? ds).map fun n => -(n : Int)
  | '+' :: ds => (readDigits? ds).map Int.ofNat
  | ds => (readDigits? ds).map Int.ofNat

/-- Digits with an optional sign, of a value from `-2^63` to `2^63 - 1`. -/
def readInt64? (cs : List Char) : Option Int := do
  let i ← readInt? cs
  if Int64.minValue.toInt ≤ i ∧ i ≤ Int64.maxValue.toInt then some i else none

def hexDigit? (c : Char) : Option Nat :=
  if c.isDigit then some (c.toNat - '0'.toNat)
  else if 'a' ≤ c ∧ c ≤ 'f' then some (c.toNat - 'a'.toNat + 10)
  else if 'A' ≤ c ∧ c ≤ 'F' then some (c.toNat - 'A'.toNat + 10)
  else none

/-- Hexadecimal digits of either case, most significant first. -/
def readHex? (cs : List Char) : Option Nat :=
  cs.foldlM (fun n c => (hexDigit? c).map (16 * n + ·)) 0

/-- Two lower-case hexadecimal digits. -/
def hexOctet (b : UInt8) : List Char :=
  [Nat.digitChar (b.toNat / 16), Nat.digitChar (b.toNat % 16)]

@[simp] theorem readDigits?_toDigits (n : Nat) :
    readDigits? (Nat.toDigits 10 n) = some n := by
  have h : isDigits (Nat.toDigits 10 n) = true := by
    have hne : Nat.toDigits 10 n ≠ [] := Nat.toDigits_ne_nil
    simp only [isDigits, Bool.and_eq_true, Bool.not_eq_true', List.isEmpty_eq_false_iff,
      List.all_eq_true]
    exact ⟨hne, fun c hc => Nat.isDigit_of_mem_toDigits (by decide) (by decide) hc⟩
  simp [readDigits?, h, Nat.ofDigitChars_toDigits]

end LoadBench.Text

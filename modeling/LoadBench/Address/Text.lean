import LoadBench.Error
import LoadBench.Text.Natural

/-! The texts of addresses: dotted octets, octets in hexadecimal with colons, decimal ports. -/
namespace LoadBench.Address
variable {k : AddressKind}

/-- The canonical text. -/
def chars (a : Address k) : List Char :=
  match k with
  | .ipv4 => List.intercalate ['.'] (a.octets.map fun o => Nat.toDigits 10 o.toNat)
  | .mac => List.intercalate [':'] (a.octets.map Text.hexOctet)
  | .port => Nat.toDigits 10 a.toNat

def text (a : Address k) : String := String.ofList a.chars

/-- One to three digits of a value up to 255. -/
def readDecimalOctet? (cs : List Char) : Option UInt8 := do
  let n ← Text.readDigits? cs
  if cs.length ≤ 3 ∧ n ≤ 255 then some (UInt8.ofNat n) else none

/-- One or two hexadecimal digits. -/
def readHexOctet? (cs : List Char) : Option UInt8 :=
  if cs.length = 1 ∨ cs.length = 2 then (Text.readHex? cs).map UInt8.ofNat else none

/-- Exactly `count` octets between separators. -/
def readOctets? (count : Nat) (separator : Char) (octet? : List Char → Option UInt8)
    (cs : List Char) : Option (Address k) := do
  let os ← (cs.splitOn separator).mapM octet?
  if os.length = count then some (ofOctets os) else none

/-- Read an address without white space around it. -/
def read? (cs : List Char) : Option (Address k) :=
  match k with
  | .ipv4 => readOctets? 4 '.' readDecimalOctet? cs
  | .mac => readOctets? 6 ':' readHexOctet? cs
  | .port => do
    let n ← Text.readDigits? cs
    if n < UInt16.size then some (ofNat n) else none

/-- Read an address with white space around it; a fault keeps the whole text. -/
def parse (s : String) : Except FormatError (Address k) :=
  match read? (Text.trim s.toList) with
  | some a => .ok a
  | none => .error (.address k s)

end LoadBench.Address

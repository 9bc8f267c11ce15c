import LoadBench.Address.Text

/-! Ranges of consecutive addresses, given by a base and a count. -/
namespace LoadBench

/-- `count` addresses from `base` on, going on with zero after the last address of the kind. -/
structure AddressRange (k : AddressKind) where
  base : Address k
  count : Nat
  count_pos : 0 < count := by decide
  count_lt : count < UInt32.size := by decide
  deriving DecidableEq

namespace AddressRange
variable {k : AddressKind}

def single (a : Address k) : AddressRange k := { base := a, count := 1 }

/-- The addresses from `a` on. -/
def sequence (a : Address k) (count : Nat) : List (Address k) := (List.range count).map a.add

def toList (r : AddressRange k) : List (Address k) := sequence r.base r.count

/-- The last address of the range. -/
def last (r : AddressRange k) : Address k := r.base.add (r.count - 1)

/-- Digits with an optional plus sign and white space around them, of a value from 1 to
`2^32 - 1`. -/
def readCount? (cs : List Char) : Option { n : Nat // 0 < n ∧ n < UInt32.size } := do
  let n ← Text.readUnsigned? UInt32.size (Text.trim cs)
  if h : 0 < n ∧ n < UInt32.size then some ⟨n, h⟩ else none

/-- Read `base` or `base,count`. Of two faults the one in the count is reported. -/
def parse (spec : String) : Except FormatError (AddressRange k) :=
  let base := spec.toList.takeWhile (· != ',')
  match spec.toList.dropWhile (· != ',') with
  | [] => (Address.parse spec).map single
  | _ :: count =>
    match readCount? count with
    | none => .error (.count (String.ofList count))
    | some n =>
      (Address.parse (String.ofList base)).map fun a => ⟨a, n.val, n.property.1, n.property.2⟩

/-- Read a range and list it. -/
def parseList (spec : String) : Except FormatError (List (Address k)) := (parse spec).map toList

@[simp] theorem length_toList (r : AddressRange k) : r.toList.length = r.count := by
  simp [toList, sequence]

theorem getElem?_toList (r : AddressRange k) (i : Nat) (h : i < r.count) :
    r.toList[i]? = some (r.base.add i) := by
  simp [toList, sequence, h]

theorem sequence_add (a : Address k) (m n : Nat) :
    sequence a (m + n) = sequence a m ++ sequence (a.add m) n := by
  simp [sequence, List.range_add, Function.comp_def, Address.add_add]

end AddressRange
end LoadBench

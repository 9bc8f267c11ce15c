import LoadBench.Json.Printer

/-! What a JSON text means where any value may stand: strings are decoded, numbers are integers of
at most 64 bits or binary64, and of a repeated member the last one counts. -/
namespace LoadBench.Json

/-- A decoded value. The members of a map are in the order of their names. -/
inductive Value
  | null
  | bool (b : Bool)
  | int (i : Int)
  | float (x : Binary64)
  | text (s : String)
  | list (items : List Value)
  | map (members : List (String × Value))

private def isHighSurrogate (u : UInt16) : Bool := 0xD800 ≤ u && u < 0xDC00

private def isLowSurrogate (u : UInt16) : Bool := 0xDC00 ≤ u && u < 0xE000

/-- The octets of a string, latest first; surrogates have to come in pairs. -/
def Literal.octets? : List UInt8 → Literal → Option (List UInt8)
  | acc, [] => some acc
  | acc, .byte b :: ps => Literal.octets? (b :: acc) ps
  | acc, .unit u :: ps =>
    if isHighSurrogate u then
      match ps with
      | .unit v :: ps =>
        if isLowSurrogate v then
          let n := 0x10000 + (u.toNat - 0xD800) * 0x400 + (v.toNat - 0xDC00)
          Literal.octets? ((String.utf8EncodeChar (Char.ofNat n)).reverse ++ acc) ps
        else none
      | _ => none
    else if isLowSurrogate u then none
    else Literal.octets? ((String.utf8EncodeChar (Char.ofNat u.toNat)).reverse ++ acc) ps

def Literal.text? (s : Literal) : Option String :=
  (Literal.octets? [] s).bind fun bs => Utf8.decode? bs.reverse

namespace Value

/-- A whole numeral that fits 64 bits, signed or not, is an integer; any other must not overflow
binary64. -/
def ofNumeral? (n : Numeral) : Option Value :=
  match n.int? with
  | some i =>
    if Int64.minValue.toInt ≤ i ∧ i < UInt64.size then some (.int i) else ofFloat n.toBinary64
  | none => ofFloat n.toBinary64
where
  ofFloat (x : Binary64) : Option Value := if x.isFinite then some (.float x) else none

/-- Add a member, or replace the one of that name. -/
def insert (name : String) (v : Value) : List (String × Value) → List (String × Value)
  | [] => [(name, v)]
  | (n, w) :: ms =>
    if name < n then (name, v) :: (n, w) :: ms
    else if name = n then (name, v) :: ms
    else (n, w) :: insert name v ms

/-- Members in the order of their names, the last of each name. -/
def sorted (ms : List (String × Value)) : List (String × Value) :=
  ms.foldl (fun acc (name, v) => insert name v acc) []

end Value

mutual
/-- The value of a tree of at most `levels` nested arrays and objects. -/
def Tree.value? (levels : Nat) : Tree → Option Value
  | .null => some .null
  | .bool b => some (.bool b)
  | .number n => Value.ofNumeral? n
  | .string s => (Literal.text? s).map .text
  | .array items => if levels = 0 then none else (itemValues? (levels - 1) items).map .list
  | .object ms =>
    if levels = 0 then none
    else (memberValues? (levels - 1) ms).map fun vs => .map (Value.sorted vs)

def itemValues? (levels : Nat) : List Tree → Option (List Value)
  | [] => some []
  | t :: ts => do
    let v ← t.value? levels
    let vs ← itemValues? levels ts
    some (v :: vs)

def memberValues? (levels : Nat) : List (Literal × Tree) → Option (List (String × Value))
  | [] => some []
  | (k, t) :: ms => do
    let name ← Literal.text? k
    let v ← t.value? levels
    let vs ← memberValues? levels ms
    some ((name, v) :: vs)
end

/-- The greatest number of arrays and objects that may be nested in each other. -/
def maxLevels : Nat := 127

namespace Value

mutual
def tree : Value → Tree
  | .null => .null
  | .bool b => .bool b
  | .int i => .number (Numeral.ofInt i)
  | .float x => Tree.ofFloat x
  | .text s => Tree.ofText s
  | .list items => .array (itemTrees items)
  | .map ms => .object (memberTrees ms)

def itemTrees : List Value → List Tree
  | [] => []
  | v :: vs => v.tree :: itemTrees vs

def memberTrees : List (String × Value) → List (Literal × Tree)
  | [] => []
  | (name, v) :: ms => ((Utf8.encode name).map .byte, v.tree) :: memberTrees ms
end

def text? : Value → Option String
  | .text s => some s
  | _ => none

def float? : Value → Option Binary64
  | .int i => some (Binary64.ofInt i)
  | .float x => some x
  | _ => none

def uint32? : Value → Option UInt32
  | .int i => if 0 ≤ i ∧ i < UInt32.size then some (UInt32.ofNat i.toNat) else none
  | _ => none

/-- The fields of a record: the members of a map, or the items of a list in the order of the
names. -/
def record? (names : List String) : Value → Option (String → Option Value)
  | .map ms => some fun name => ms.lookup name
  | .list items =>
    if items.length ≤ names.length then some fun name => (names.zip items).lookup name else none
  | _ => none

end Value
end LoadBench.Json

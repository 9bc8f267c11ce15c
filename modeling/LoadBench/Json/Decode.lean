import LoadBench.Json.Reader
import LoadBench.Json.Value

/-! Reading typed data from trees. -/
namespace LoadBench.Json.Tree

def isNull : Tree → Bool
  | .null => true
  | _ => false

def text? : Tree → Option String
  | .string s => Literal.text? s
  | _ => none

def bool? : Tree → Option Bool
  | .bool b => some b
  | _ => none

/-- An integer written without a fraction or an exponent. -/
def int? (lo hi : Int) : Tree → Option Int
  | .number n => n.int?.bind fun i => if lo ≤ i ∧ i ≤ hi then some i else none
  | _ => none

def nat? (bound : Nat) (t : Tree) : Option Nat := (t.int? 0 (bound - 1)).map Int.toNat

def uint16? (t : Tree) : Option UInt16 := (t.nat? UInt16.size).map UInt16.ofNat

def uint32? (t : Tree) : Option UInt32 := (t.nat? UInt32.size).map UInt32.ofNat

def float? : Tree → Option Binary64
  | .number n => if n.toBinary64.isFinite then some n.toBinary64 else none
  | _ => none

def list? {α : Type} (read : Tree → Option α) : Tree → Option (List α)
  | .array items => items.mapM read
  | _ => none

/-- The members of an object with their names decoded. -/
def members? : List (Literal × Tree) → Option (List (String × Tree))
  | [] => some []
  | (k, t) :: ms => do
    let name ← Literal.text? k
    let ms ← members? ms
    some ((name, t) :: ms)

/-- The fields of a record. An object may have members of other names, which are ignored, but none
of these names twice; an array gives the fields in the order of the names, and may stop early. -/
def record? (names : List String) : Tree → Option (String → Option Tree)
  | .object ms => do
    let ms ← members? ms
    let known := ms.filter fun m => names.contains m.1
    if (known.map Prod.fst).Nodup then some fun name => known.lookup name else none
  | .array items =>
    if items.length ≤ names.length then some fun name => (names.zip items).lookup name else none
  | _ => none

/-- A name written as a string, or as the only member of an object, with the value `null`. -/
def variant? : Tree → Option String
  | .string s => Literal.text? s
  | .object [(k, .null)] => Literal.text? k
  | _ => none

/-- The parts of a tagged value. -/
structure Tagged where
  tag : String
  content : Option Tree
  /-- The content was written before the tag. -/
  contentFirst : Bool

/-- A tag and its content, as an object with these two members, or as an array of the two, where the
tag is a string. Of the content that is written first the value has to be representable. -/
def tagged? (tagName contentName : String) : Tree → Option Tagged
  | .object ms => do
    let ms ← members? ms
    let known := ms.filter fun m => m.1 == tagName || m.1 == contentName
    match known with
    | [(n, t)] => if n = tagName then (variant? t).map fun tag => ⟨tag, none, false⟩ else none
    | [(n, t), (m, c)] =>
      if n = tagName ∧ m = contentName then
        (variant? t).map fun tag => ⟨tag, some c, false⟩
      else if n = contentName ∧ m = tagName then do
        let _ ← t.value? (maxLevels - 1)
        let tag ← variant? c
        some ⟨tag, some t, true⟩
      else none
    | _ => none
  | .array [t, c] => t.text?.map fun tag => ⟨tag, some c, false⟩
  | _ => none

end LoadBench.Json.Tree

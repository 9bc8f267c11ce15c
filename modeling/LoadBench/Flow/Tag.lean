import LoadBench.Error
import LoadBench.Text.Natural
import LoadBench.Json.Printer

/-! VLAN tags of a flow: none, one 802.1Q tag, or the two tags of QinQ. -/
namespace LoadBench

inductive Tag
  | untagged
  | dot1q (vlan priority : Nat)
  | qinq (outer inner priority : Nat)
  deriving DecidableEq, Repr

namespace Tag

def maxVlan : Nat := 4095

def maxPriority : Nat := 7

def checkVlan (vlan : Nat) : Except FormatError Unit :=
  if vlan ≤ maxVlan then .ok () else .error (.field .vlanId vlan.repr)

def checkPriority (priority : Nat) : Except FormatError Unit :=
  if priority ≤ maxPriority then .ok () else .error (.field .vlanPriority priority.repr)

/-- An 802.1Q tag within the limits. -/
def single (vlan priority : Nat) : Except FormatError Tag := do
  checkVlan vlan
  checkPriority priority
  return .dot1q vlan priority

/-- QinQ tags within the limits. -/
def double (outer inner priority : Nat) : Except FormatError Tag := do
  checkVlan outer
  checkVlan inner
  checkPriority priority
  return .qinq outer inner priority

/-- Octets that the tag adds to the headers. -/
def overhead : Tag → Nat
  | .untagged => 0
  | .dot1q .. => 4
  | .qinq .. => 8

/-- A decimal below `bound` with white space around it. -/
def readField (kind : FieldKind) (bound : Nat) (cs : List Char) : Except FormatError Nat :=
  match Text.readUnsigned? bound (Text.trim cs) with
  | some n => .ok n
  | none => .error (.field kind (String.ofList cs))

def readVlan : List Char → Except FormatError Nat := readField .vlanId UInt16.size

def readPriority : List Char → Except FormatError Nat := readField .vlanPriority UInt8.size

/-- `vlan` or `vlan,priority`. -/
def readDot1q (s : String) : Except FormatError (Nat × Nat) :=
  match s.toList.splitOn ',' with
  | [v] => do return (← readVlan v, 0)
  | [v, p] => do return (← readVlan v, ← readPriority p)
  | _ => .error (.field .dot1qTag s)

/-- `vlan` for both tags, `outer,inner`, or `outer,inner,priority`. -/
def readQinq (s : String) : Except FormatError (Nat × Nat × Nat) :=
  match s.toList.splitOn ',' with
  | [v] => do
    let n ← readVlan v
    return (n, n, 0)
  | [o, i] => do return (← readVlan o, ← readVlan i, 0)
  | [o, i, p] => do return (← readVlan o, ← readVlan i, ← readPriority p)
  | _ => .error (.field .qinqTags s)

/-- The tag that two optional texts ask for. A text of zeros asks for none; both may not ask for
one, and the outer VLAN of QinQ is not zero. -/
def ofOptions (dot1q qinq : Option String) : Except ParameterError Tag := do
  let (v, p) ← (dot1q.elim (.ok (0, 0)) readDot1q).mapError .format
  let (o, i, q) ← (qinq.elim (.ok (0, 0, 0)) readQinq).mapError .format
  match decide (v ≠ 0 ∨ p ≠ 0), decide (o ≠ 0 ∨ i ≠ 0 ∨ q ≠ 0) with
  | true, true => throw (.exclusiveTags v p o i q)
  | true, false => (single v p).mapError .format
  | false, true =>
    if o = 0 then throw (.outerVlanZero o i q) else (double o i q).mapError .format
  | false, false => return .untagged

def json : Tag → Json.Tree
  | .untagged => .record [("kind", .ofText "none")]
  | .dot1q v p => .record [("kind", .ofText "dot1q"), ("vlan", .ofNat v), ("priority", .ofNat p)]
  | .qinq o i p =>
    .record [("kind", .ofText "qinq"), ("outer_vlan", .ofNat o), ("inner_vlan", .ofNat i),
      ("priority", .ofNat p)]

end Tag
end LoadBench

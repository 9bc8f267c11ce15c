import LoadBench.Address.Basic
import LoadBench.Binary64.Notation

/-! What can be wrong with texts and parameters, and how each fault is reported. -/
namespace LoadBench

/-- The structured texts besides addresses and counts. -/
inductive FieldKind | vlanId | vlanPriority | dot1qTag | qinqTags | devicePairs
  deriving DecidableEq, Repr

def FieldKind.noun : FieldKind → String
  | .vlanId => "VLAN id"
  | .vlanPriority => "VLAN priority"
  | .dot1qTag => "802.1Q tag"
  | .qinqTags => "QinQ tags"
  | .devicePairs => "device pairs"

/-- A text that does not follow its grammar. Each cause keeps the text as it was given. -/
inductive FormatError
  | address (kind : AddressKind) (input : String)
  | count (input : String)
  | field (kind : FieldKind) (input : String)
  deriving DecidableEq, Repr

def FormatError.message : FormatError → String
  | .address kind input => s!"invalid {kind.noun} `{input}`"
  | .count input => s!"invalid count `{input}`: expected a positive integer"
  | .field kind input => s!"invalid {kind.noun} `{input}`"

/-- The six address sequences of a flow. -/
inductive FlowField | srcMac | dstMac | srcIp | dstIp | srcPort | dstPort
  deriving DecidableEq, Repr

def FlowField.name : FlowField → String
  | .srcMac => "src_mac"
  | .dstMac => "dst_mac"
  | .srcIp => "src_ip"
  | .dstIp => "dst_ip"
  | .srcPort => "src_port"
  | .dstPort => "dst_port"

/-- The most values a sequence of a flow may have. -/
def maxRangeValues : Nat := 1048576

/-- Why parameters of a flow or of the generator are refused. -/
inductive ParameterError
  | format (e : FormatError)
  | exclusiveTags (vlan priority outer inner qinqPriority : Nat)
  | noExplicitMacs
  | outerVlanZero (outer inner priority : Nat)
  | frameTooSmall (size overhead : Nat)
  | rangeTooLong (field : FlowField) (count : Nat)
  | noFlows
  | lossOutOfRange (percent : Binary64)
  | granularityOutOfRange (percent : Binary64)
  deriving DecidableEq, Repr

/-- Texts that do not follow their grammar, contradictory options, and values out of bounds. -/
inductive ErrorKind | format | configuration | validation
  deriving DecidableEq, Repr

namespace ParameterError

/-- Contradictory options, as opposed to values out of bounds. -/
def isConfiguration : ParameterError → Bool
  | .exclusiveTags .. | .noExplicitMacs => true
  | _ => false

def kind : ParameterError → ErrorKind
  | .format _ => .format
  | e => if e.isConfiguration then .configuration else .validation

def message : ParameterError → String
  | .format e => e.message
  | .exclusiveTags v p o i q =>
    s!"configuration error: 802.1Q tag {v},{p} and QinQ tags {o},{i},{q} are mutually exclusive"
  | .noExplicitMacs =>
    "configuration error: explicit destination mode needs at least one MAC"
  | .outerVlanZero o i q =>
    s!"validation error: QinQ tags {o},{i},{q} need a non-zero outer VLAN"
  | .frameTooSmall size overhead =>
    s!"validation error: frame size {size} is smaller than the {overhead}-byte header overhead"
  | .rangeTooLong field count =>
    s!"validation error: {field.name} range of {count} values exceeds the limit of {maxRangeValues}"
  | .noFlows => "validation error: num_flows must be at least 1"
  | .lossOutOfRange x =>
    s!"validation error: max_loss_pct {x.text .positional} must be within 0..=100"
  | .granularityOutOfRange x =>
    s!"validation error: search_granularity {x.text .positional} must be a non-negative number"

end ParameterError
end LoadBench

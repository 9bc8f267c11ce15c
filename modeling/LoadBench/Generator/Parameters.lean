import LoadBench.Flow.Basic
import LoadBench.Json.Decode

/-! Parameters of a search for the highest rate, their validation and their JSON form. -/
namespace LoadBench

/-- Layer-2 destinations: left to the generator, or given one by one. -/
inductive Destination
  | ranged
  | explicit (macs : List String)
  deriving DecidableEq, Repr

structure Parameters where
  devicePairs : String := "0:1"
  searchRuntime : UInt32 := 10
  validationRuntime : UInt32 := 30
  numFlows : UInt32 := 1
  frameSize : UInt32 := 64
  maxLoss : Binary64 := .ofDecimal false 2 (-3)
  sniffRuntime : UInt32 := 0
  granularity : Binary64 := .ofDecimal false 5 0
  destination : Destination := .ranged
  deriving DecidableEq, Repr

namespace Parameters

/-- Two numbers of 32 bits around the first colon, each with white space around it. -/
def isDevicePair (cs : List Char) : Bool :=
  let isPort (cs : List Char) := (Text.readUInt32? (Text.trim cs)).isSome
  match cs.dropWhile (· != ':') with
  | [] => false
  | _ :: right => isPort (cs.takeWhile (· != ':')) && isPort right

def checkDevicePairs (s : String) : Except ParameterError Unit :=
  if (s.toList.splitOn ',').all isDevicePair then .ok ()
  else .error (.format (.field .devicePairs s))

def checkDestination : Destination → Except ParameterError (Option (List Mac))
  | .ranged => .ok none
  | .explicit [] => .error .noExplicitMacs
  | .explicit macs => (macs.mapM Address.parse).map some |>.mapError .format

/-- Check all parameters, in the order of the fields that can be wrong; the explicit destinations
come back as addresses. -/
def validate (p : Parameters) : Except ParameterError (Option (List Mac)) := do
  checkDevicePairs p.devicePairs
  if p.numFlows = 0 then throw .noFlows
  let _ ← payloadLength p.frameSize .untagged
  if !(p.maxLoss.isFinite && p.maxLoss.isNonneg && p.maxLoss.absAtMost 100) then
    throw (.lossOutOfRange p.maxLoss)
  if !(p.granularity.isFinite && p.granularity.isNonneg) then
    throw (.granularityOutOfRange p.granularity)
  checkDestination p.destination

end Parameters

namespace Destination

def json : Destination → Json.Tree
  | .ranged => .record [("mode", .ofText "ranged")]
  | .explicit macs =>
    .record [("mode", .ofText "explicit"), ("macs", .array (macs.map .ofText))]

/-- The two modes by name; where the whole message was held back, also by their index. -/
def isExplicit? (heldBack : Bool) (t : Json.Tree) : Option Bool :=
  match t.text? with
  | some "ranged" => some false
  | some "explicit" => some true
  | some _ => none
  | none => if heldBack then (t.nat? 2).map (· == 1) else none

def ofParts? (explicit : Bool) (macs : List Json.Tree) : Option Destination :=
  match explicit, macs with
  | false, _ => some .ranged
  | true, [t] => (t.list? Json.Tree.text?).map .explicit
  | true, _ => none

/-- A destination inside `enclosing` arrays and objects. It is held back until its mode is known,
so all of it has to be representable. -/
def ofJson? (enclosing : Nat) (heldBack : Bool) (t : Json.Tree) : Option Destination := do
  let _ ← t.value? (Json.maxLevels - enclosing)
  match t with
  | .object ms =>
    let ms ← Json.Tree.members? ms
    match ms.filter (·.1 == "mode") with
    | [(_, m)] =>
      ofParts? (← isExplicit? heldBack m) ((ms.filter (·.1 == "macs")).map Prod.snd)
    | _ => none
  | .array (m :: rest) =>
    let explicit ← isExplicit? heldBack m
    if !explicit && !rest.isEmpty then none else ofParts? explicit rest
  | _ => none

end Destination

namespace Parameters

def fieldNames : List String :=
  ["device_pairs", "search_runtime", "validation_runtime", "num_flows", "frame_size",
    "max_loss_pct", "sniff_runtime", "search_granularity", "destination"]

def json (p : Parameters) : Json.Tree :=
  .record [
    ("device_pairs", .ofText p.devicePairs), ("search_runtime", .ofNat p.searchRuntime.toNat),
    ("validation_runtime", .ofNat p.validationRuntime.toNat),
    ("num_flows", .ofNat p.numFlows.toNat), ("frame_size", .ofNat p.frameSize.toNat),
    ("max_loss_pct", .ofFloat p.maxLoss), ("sniff_runtime", .ofNat p.sniffRuntime.toNat),
    ("search_granularity", .ofFloat p.granularity),
    ("destination", p.destination.json)]

/-- Parameters inside `enclosing` arrays and objects. Every field may be left out and then has its
default. -/
def ofJson? (enclosing : Nat) (heldBack : Bool) (t : Json.Tree) : Option Parameters := do
  let field ← t.record? fieldNames
  let count (name : String) (dflt : UInt32) := (field name).elim (some dflt) Json.Tree.uint32?
  let percent (name : String) (dflt : Binary64) := (field name).elim (some dflt) Json.Tree.float?
  let d : Parameters := {}
  return {
    devicePairs := ← (field "device_pairs").elim (some d.devicePairs) Json.Tree.text?
    searchRuntime := ← count "search_runtime" d.searchRuntime
    validationRuntime := ← count "validation_runtime" d.validationRuntime
    numFlows := ← count "num_flows" d.numFlows
    frameSize := ← count "frame_size" d.frameSize
    maxLoss := ← percent "max_loss_pct" d.maxLoss
    sniffRuntime := ← count "sniff_runtime" d.sniffRuntime
    granularity := ← percent "search_granularity" d.granularity
    destination := ← (field "destination").elim (some d.destination)
      (Destination.ofJson? (enclosing + 1) heldBack) }

end Parameters
end LoadBench

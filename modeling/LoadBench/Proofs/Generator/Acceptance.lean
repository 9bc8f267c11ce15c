import LoadBench.Proofs.Address.Grammar
import LoadBench.Proofs.Binary64.Value
import LoadBench.Proofs.Generator.CommandLine
import LoadBench.Proofs.Requirements
import LoadBench.Proofs.Text.Unsigned

/-!
Which parameters get a command line, and what it says.

Main statement: a command line is made exactly for parameters that meet all requirements; else the
error is that of the first requirement they do not meet. The arguments of a command line say what
the parameters are, option by option.
-/
namespace LoadBench

open Requirement (FirstError)

namespace Parameters

/-- The text of a pair of devices: two numbers of 32 bits with a colon between them, each with
blanks around it. There is no colon in a number, so this is the first one of the text. -/
def IsPairText (cs : List Char) : Prop :=
  ∃ left right m n, cs = left ++ ':' :: right ∧ Text.IsField UInt32.size left m ∧
    Text.IsField UInt32.size right n

theorem isSome_readUInt32?_trim_iff {cs : List Char} :
    (Text.readUInt32? (Text.trim cs)).isSome = true ↔ ∃ n, Text.IsField UInt32.size cs n := by
  unfold Text.readUInt32?
  rw [Option.isSome_map, Option.isSome_iff_exists]
  exact exists_congr fun _ => Text.readUnsigned?_trim_eq_some_iff

theorem isDevicePair_iff {cs : List Char} : isDevicePair cs = true ↔ IsPairText cs := by
  unfold isDevicePair
  constructor
  · intro h
    cases hrest : cs.dropWhile (· != ':') with
    | nil =>
      rw [hrest] at h
      cases h
    | cons c right =>
      rw [hrest] at h
      obtain ⟨hleft, hright⟩ := Bool.and_eq_true_iff.1 h
      obtain ⟨m, hm⟩ := isSome_readUInt32?_trim_iff.1 hleft
      obtain ⟨n, hn⟩ := isSome_readUInt32?_trim_iff.1 hright
      exact ⟨_, right, m, n, Text.eq_append_of_dropWhile hrest, hm, hn⟩
  · rintro ⟨left, right, m, n, rfl, hm, hn⟩
    have hcolon : ':' ∉ left := hm.notMem (by decide) rfl rfl
    rw [Text.dropWhile_of_notMem hcolon, Text.takeWhile_of_notMem hcolon]
    exact Bool.and_eq_true_iff.2
      ⟨isSome_readUInt32?_trim_iff.2 ⟨m, hm⟩, isSome_readUInt32?_trim_iff.2 ⟨n, hn⟩⟩

end Parameters

/-- Destinations that are given one by one are MAC addresses, and at least one. -/
def Destination.requirements : Destination → List (Requirement ParameterError)
  | .ranged => []
  | .explicit texts =>
    ⟨texts ≠ [], .noExplicitMacs⟩ ::
      texts.map fun s => ⟨∃ a, Address.IsMacText s a, .format (.address .mac s)⟩

/-- No destination at all contradicts the mode; a text that is no address breaks its grammar. -/
def Destination.errorKinds : Destination → List ErrorKind
  | .ranged => []
  | .explicit texts => .configuration :: texts.map fun _ => .format

theorem Destination.kind_requirements (d : Destination) :
    d.requirements.map (·.error.kind) = d.errorKinds := by
  cases d with
  | ranged => rfl
  | explicit texts =>
    rw [requirements, List.map_cons, List.map_map]
    rfl

namespace Parameters

/-- What parameters have to meet, in the order in which it is checked. -/
def requirements (p : Parameters) : List (Requirement ParameterError) :=
  [⟨∀ pair ∈ p.devicePairs.toList.splitOn ',', IsPairText pair,
      .format (.field .devicePairs p.devicePairs)⟩,
    ⟨1 ≤ p.numFlows.toNat, .noFlows⟩,
    ⟨46 ≤ p.frameSize.toNat, .frameTooSmall p.frameSize.toNat 46⟩,
    ⟨p.maxLoss.isFinite = true ∧ 0 ≤ p.maxLoss.toRat ∧ p.maxLoss.toRat ≤ 100,
      .lossOutOfRange p.maxLoss⟩,
    ⟨p.granularity.isFinite = true ∧ 0 ≤ p.granularity.toRat,
      .granularityOutOfRange p.granularity⟩] ++
  p.destination.requirements

theorem checked_devicePairs (s : String) :
    Checked [⟨∀ pair ∈ s.toList.splitOn ',', IsPairText pair, .format (.field .devicePairs s)⟩]
      (checkDevicePairs s) := by
  have hpairs : (s.toList.splitOn ',').all isDevicePair = true ↔
      ∀ pair ∈ s.toList.splitOn ',', IsPairText pair := by
    rw [List.all_eq_true]
    exact forall₂_congr fun _ _ => isDevicePair_iff
  exact .single hpairs () _

theorem checked_parse_mac (s : String) :
    Checked [⟨∃ a, Address.IsMacText s a, .address .mac s⟩] (Address.parse (k := .mac) s) := by
  cases hparse : Address.parse (k := .mac) s with
  | ok a =>
    exact .passed (List.forall_mem_singleton.2 ⟨a, Address.parse_mac_eq_ok_iff.1 hparse⟩)
  | error e =>
    have hnone : ¬∃ a, Address.IsMacText s a := by
      rintro ⟨a, ha⟩
      rw [Address.parse_mac_eq_ok_iff.2 ha] at hparse
      cases hparse
    have he := Address.parse_eq_error (k := .mac) (s := s) fun a ha =>
      hnone ⟨a, Address.parse_mac_eq_ok_iff.1 ha⟩
    rw [hparse] at he
    cases he
    exact .failed ⟨[], _, [], rfl, by simp, hnone, rfl⟩

theorem checked_destination (d : Destination) :
    Checked d.requirements (checkDestination d) := by
  cases d with
  | ranged => exact .pure none
  | explicit texts =>
    cases texts with
    | nil => exact .failed ⟨[], _, [], rfl, by simp, fun h => h rfl, rfl⟩
    | cons s texts =>
      have hmacs := ((Checked.mapM checked_parse_mac (s :: texts)).map some).mapError
        ParameterError.format
      rw [List.map_map] at hmacs
      exact .cons (List.cons_ne_nil s texts) hmacs

theorem checked_validate (p : Parameters) : Checked p.requirements p.validate := by
  have hflows : ¬p.numFlows = 0 ↔ 1 ≤ p.numFlows.toNat := by
    rw [Nat.one_le_iff_ne_zero, not_iff_not, ← UInt32.toNat_inj]
    rfl
  have hloss : ¬(!(p.maxLoss.isFinite && p.maxLoss.isNonneg && p.maxLoss.absAtMost 100)) = true ↔
      p.maxLoss.isFinite = true ∧ 0 ≤ p.maxLoss.toRat ∧ p.maxLoss.toRat ≤ 100 := by
    rw [Bool.not_eq_true', Bool.not_eq_false, Bool.and_eq_true, Bool.and_eq_true, and_assoc,
      Binary64.toRat_nonneg_iff]
    refine and_congr_right fun _ => and_congr_right fun hnonneg => ?_
    exact (Binary64.toRat_le_iff hnonneg 100).symm
  have hgranularity : ¬(!(p.granularity.isFinite && p.granularity.isNonneg)) = true ↔
      p.granularity.isFinite = true ∧ 0 ≤ p.granularity.toRat := by
    rw [Bool.not_eq_true', Bool.not_eq_false, Bool.and_eq_true, Binary64.toRat_nonneg_iff]
  have hframe : Checked [⟨46 ≤ p.frameSize.toNat, .frameTooSmall p.frameSize.toNat 46⟩]
      (payloadLength p.frameSize .untagged) := .single Iff.rfl _ _
  exact (checked_devicePairs p.devicePairs).bind fun _ _ => .guard hflows
    (hframe.bind fun _ _ => .guard hloss (.guard hgranularity (checked_destination p.destination)))

end Parameters

/-- The values that the option for destinations gets: none when the generator finds them itself,
else one that lists the canonical texts of the addresses, in the order in which they were given. -/
inductive Destination.Lists : Destination → List String → Prop
  | ranged : Lists .ranged []
  | explicit {texts : List String} {macs : List Mac} {value : String}
      (addresses : List.Forall₂ Address.IsMacText texts macs)
      (canonical : value.toList.splitOn ',' = macs.map Address.chars) :
      Lists (.explicit texts) [value]

/-- The addresses in a list of canonical texts are found again between its commas. -/
theorem Address.splitOn_intercalate_text {k : AddressKind} {as : List (Address k)} (h : as ≠ []) :
    (String.intercalate "," (as.map text)).toList.splitOn ',' = as.map chars := by
  have hchars : (as.map text).map String.toList = as.map chars := by
    rw [List.map_map]
    exact List.map_congr_left fun a _ => String.toList_ofList
  have hcomma : ∀ cs ∈ as.map chars, ',' ∉ cs := by
    intro cs hcs
    obtain ⟨a, -, rfl⟩ := List.mem_map.1 hcs
    exact a.comma_notMem_chars
  have hne : as.map chars ≠ [] := fun hnil => h (List.map_eq_nil_iff.1 hnil)
  rw [String.toList_intercalate, hchars]
  exact List.splitOn_intercalate ',' hcomma hne

theorem Parameters.lists_of_checkDestination {d : Destination} {macs : Option (List Mac)}
    (h : checkDestination d = .ok macs) :
    d.Lists (macs.map fun macs => String.intercalate "," (macs.map Address.text)).toList := by
  cases d with
  | ranged =>
    cases h
    exact .ranged
  | explicit texts =>
    obtain ⟨hne, addresses, hread, rfl⟩ := exists_mapM_of_checkDestination h
    have haddresses := mapM_eq_ok_iff.1 hread
    have hsome : addresses ≠ [] := by
      rintro rfl
      exact hne (List.forall₂_nil_right_iff.1 haddresses)
    exact .explicit (haddresses.imp fun _ _ => Address.parse_mac_eq_ok_iff.1)
      (Address.splitOn_intercalate_text hsome)

namespace GeneratorCommand

/-- A text that reads back as a number. -/
def Reads (s : String) (n : UInt32) : Prop := Text.readUInt32? s.toList = some n

theorem reads_toString (n : UInt32) : Reads (toString n.toNat) n := by
  have hdigits : Text.Denotes (toString n.toNat).toList n.toNat := Text.denotes_toString n.toNat
  rw [Reads, Text.readUInt32?_of_denotes hdigits, if_pos n.toNat_lt, UInt32.ofNat_toNat]

/-- What a command line says: the program, a value for each option in their order, and the extra
arguments as they are. Counts read back, and percentages have six places. -/
def Says (g : GeneratorCommand) (p : Parameters) (argv : List String) : Prop :=
  ∃ macs search validation flows frame loss sniff granularity,
    p.destination.Lists macs ∧ Reads search p.searchRuntime ∧
      Reads validation p.validationRuntime ∧ Reads flows p.numFlows ∧ Reads frame p.frameSize ∧
      p.maxLoss.IsFixed 6 loss ∧ Reads sniff p.sniffRuntime ∧ p.granularity.IsFixed 6 granularity ∧
      argv = g.program :: (options p.destination.isExplicit).zipWith (· ++ ·)
        ([g.trafficGenerator, p.devicePairs] ++ macs ++ [search, validation, flows, frame, loss,
          sniff, granularity, "50", "50", "fail", "fail"]) ++ g.extraArgs

theorem says_arguments (g : GeneratorCommand) {p : Parameters} {macs : Option (List Mac)}
    (h : p.validate = .ok macs) : g.Says p (g.arguments p macs) := by
  have hdestination := Parameters.checkDestination_of_validate h
  have hlists := Parameters.lists_of_checkDestination hdestination
  have hexplicit := Parameters.isSome_of_checkDestination hdestination
  refine ⟨_, toString p.searchRuntime.toNat, toString p.validationRuntime.toNat,
    toString p.numFlows.toNat, toString p.frameSize.toNat, p.maxLoss.fixedText 6,
    toString p.sniffRuntime.toNat, p.granularity.fixedText 6, hlists, reads_toString _,
    reads_toString _, reads_toString _, reads_toString _, Binary64.isFixed_fixedText 6 _,
    reads_toString _, Binary64.isFixed_fixedText 6 _, ?_⟩
  rw [← hexplicit]
  exact g.arguments_eq p macs

/-- A command line is made exactly when all requirements are met, and the error is otherwise that of
the first one that is not. A command line says what was asked for. -/
theorem argv_checked (g : GeneratorCommand) (p : Parameters) :
    ((∃ argv, g.argv p = .ok argv) ↔ ∀ r ∈ p.requirements, r.holds) ∧
      (∀ e, g.argv p = .error e ↔ FirstError p.requirements e) ∧
      p.requirements.map (·.error.kind) =
        [.format, .validation, .validation, .validation, .validation] ++
          p.destination.errorKinds ∧
      ∀ argv, g.argv p = .ok argv → g.Says p argv := by
  have hchecked : Checked p.requirements (g.argv p) := (p.checked_validate).map (g.arguments p)
  refine ⟨hchecked.exists_ok_iff, fun _ => hchecked.eq_error_iff, ?_, ?_⟩
  · rw [Parameters.requirements, List.map_append, p.destination.kind_requirements]
    rfl
  · intro argv h
    obtain ⟨macs, hvalid, rfl⟩ := exists_validate_of_argv h
    exact g.says_arguments hvalid

/-- Pairs with a sign and blanks, a negative zero, and destinations in two other spellings. -/
theorem argv_checked_explicit :
    let g : GeneratorCommand := ⟨"bench", "trex", ["--verbose"]⟩
    let p : Parameters := {
      devicePairs := "0: 1,+2 :3", searchRuntime := 4294967295, maxLoss := ⟨0x8000000000000000⟩
      destination := .explicit ["C6:F:aa:0:1:2", " 00:0:0:0:0:fF "] }
    let argv := ["bench", "--traffic-generator=trex", "--device-pairs=0: 1,+2 :3",
      "--dst-macs=c6:0f:aa:00:01:02,00:00:00:00:00:ff", "--search-runtime=4294967295",
      "--validation-runtime=30", "--num-flows=1", "--frame-size=64", "--max-loss-pct=-0.000000",
      "--sniff-runtime=0", "--search-granularity=5.000000", "--rate-tolerance=50",
      "--runtime-tolerance=50", "--negative-packet-loss=fail", "--rate-tolerance-failure=fail",
      "--verbose"]
    g.argv p = .ok argv ∧ (∀ r ∈ p.requirements, r.holds) ∧ g.Says p argv := by
  intro g p argv
  have hargv : g.argv p = .ok argv := by decide +kernel
  obtain ⟨haccepted, -, -, hsays⟩ := g.argv_checked p
  exact ⟨hargv, haccepted.1 ⟨argv, hargv⟩, hsays argv hargv⟩

end GeneratorCommand
end LoadBench

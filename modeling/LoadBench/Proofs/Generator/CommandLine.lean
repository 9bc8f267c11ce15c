import LoadBench.Generator.Command
import LoadBench.Proofs.Fallible

/-! The form of a command line: the program, options in a fixed order with a value each, and the
extra arguments as they were configured. -/
namespace LoadBench

def Destination.isExplicit : Destination → Bool
  | .ranged => false
  | .explicit _ => true

/-- The last check of parameters is that of the destination. -/
theorem Parameters.checkDestination_of_validate {p : Parameters} {macs : Option (List Mac)}
    (h : p.validate = .ok macs) : checkDestination p.destination = .ok macs := by
  obtain ⟨_, -, h⟩ := bind_eq_ok h
  obtain ⟨-, h⟩ := guard_eq_ok h
  obtain ⟨_, -, h⟩ := bind_eq_ok h
  obtain ⟨-, h⟩ := guard_eq_ok h
  obtain ⟨-, h⟩ := guard_eq_ok h
  exact h

/-- Explicit destinations that pass are at least one, and come back as they were read. -/
theorem Parameters.exists_mapM_of_checkDestination {texts : List String}
    {macs : Option (List Mac)} (h : checkDestination (.explicit texts) = .ok macs) :
    texts ≠ [] ∧ ∃ addresses, texts.mapM (Address.parse (k := .mac)) = .ok addresses ∧
      macs = some addresses := by
  cases texts with
  | nil => cases h
  | cons text texts =>
    unfold checkDestination at h
    dsimp only at h
    cases hread : (text :: texts).mapM (Address.parse (k := .mac)) with
    | error e =>
      rw [hread] at h
      cases h
    | ok addresses =>
      rw [hread] at h
      cases h
      exact ⟨List.cons_ne_nil _ _, addresses, rfl, rfl⟩

theorem Parameters.isSome_of_checkDestination {d : Destination} {macs : Option (List Mac)}
    (h : checkDestination d = .ok macs) : macs.isSome = d.isExplicit := by
  cases d with
  | ranged =>
    cases h
    rfl
  | explicit texts =>
    obtain ⟨-, addresses, -, rfl⟩ := exists_mapM_of_checkDestination h
    rfl

namespace GeneratorCommand

/-- The options in their order. Destinations are listed only when they are explicit. -/
def options (explicit : Bool) : List String :=
  ["--traffic-generator=", "--device-pairs="] ++ (if explicit then ["--dst-macs="] else []) ++
  ["--search-runtime=", "--validation-runtime=", "--num-flows=", "--frame-size=",
    "--max-loss-pct=", "--sniff-runtime=", "--search-granularity=", "--rate-tolerance=",
    "--runtime-tolerance=", "--negative-packet-loss=", "--rate-tolerance-failure="]

theorem length_options (explicit : Bool) :
    (options explicit).length = if explicit then 14 else 13 := by
  cases explicit <;> rfl

/-- A command line by its parts: one argument to an option, whatever its value. -/
def IsCommandLine (g : GeneratorCommand) (explicit : Bool) (argv : List String) : Prop :=
  ∃ values : List String, values.length = (options explicit).length ∧
    values.head? = some g.trafficGenerator ∧
    argv = g.program :: (options explicit).zipWith (· ++ ·) values ++ g.extraArgs

/-- The values of the options, in the same order. -/
def values (g : GeneratorCommand) (p : Parameters) (macs : Option (List Mac)) : List String :=
  [g.trafficGenerator, p.devicePairs] ++
  (macs.map fun macs => String.intercalate "," (macs.map Address.text)).toList ++
  [toString p.searchRuntime.toNat, toString p.validationRuntime.toNat, toString p.numFlows.toNat,
    toString p.frameSize.toNat, p.maxLoss.fixedText 6, toString p.sniffRuntime.toNat,
    p.granularity.fixedText 6, "50", "50", "fail", "fail"]

theorem length_values (g : GeneratorCommand) (p : Parameters) (macs : Option (List Mac)) :
    (g.values p macs).length = (options macs.isSome).length := by
  cases macs <;> simp [values, options]

theorem arguments_eq (g : GeneratorCommand) (p : Parameters) (macs : Option (List Mac)) :
    g.arguments p macs =
      g.program :: (options macs.isSome).zipWith (· ++ ·) (g.values p macs) ++ g.extraArgs := by
  cases macs with
  | none => simp [arguments, options, values, toString]
  | some macs => simp [arguments, options, values, destinationArgument, toString]

theorem isCommandLine_arguments (g : GeneratorCommand) (p : Parameters)
    (macs : Option (List Mac)) : g.IsCommandLine macs.isSome (g.arguments p macs) :=
  ⟨g.values p macs, g.length_values p macs, rfl, g.arguments_eq p macs⟩

/-- The first two arguments are those of the configuration. -/
theorem IsCommandLine.configured {g : GeneratorCommand} {explicit : Bool} {argv : List String}
    (h : g.IsCommandLine explicit argv) :
    [g.program, "--traffic-generator=" ++ g.trafficGenerator] <+: argv := by
  obtain ⟨values, -, hhead, rfl⟩ := h
  cases values with
  | nil => cases hhead
  | cons value values =>
    cases hhead
    exact ⟨_, rfl⟩

/-- The program and one argument to each option stand before the extra arguments. -/
theorem IsCommandLine.length {g : GeneratorCommand} {explicit : Bool} {argv : List String}
    (h : g.IsCommandLine explicit argv) :
    argv.length = (if explicit then 15 else 14) + g.extraArgs.length := by
  obtain ⟨values, hlength, -, rfl⟩ := h
  have hoptions : ((options explicit).zipWith (· ++ ·) values).length =
      if explicit then 14 else 13 := by
    rw [List.length_zipWith, hlength, Nat.min_self, length_options]
  rw [List.length_append, List.length_cons, hoptions]
  cases explicit <;> rfl

theorem exists_validate_of_argv {g : GeneratorCommand} {p : Parameters} {argv : List String}
    (h : g.argv p = .ok argv) : ∃ macs, p.validate = .ok macs ∧ argv = g.arguments p macs := by
  unfold GeneratorCommand.argv at h
  cases hvalid : p.validate with
  | error e =>
    rw [hvalid] at h
    cases h
  | ok macs =>
    rw [hvalid] at h
    cases h
    exact ⟨macs, rfl, rfl⟩

/-- Parameters that get a command line are valid, and their command line has the right form. -/
theorem isCommandLine_of_argv {g : GeneratorCommand} {p : Parameters} {argv : List String}
    (h : g.argv p = .ok argv) :
    (∃ macs, p.validate = .ok macs) ∧ g.IsCommandLine p.destination.isExplicit argv := by
  obtain ⟨macs, hvalid, rfl⟩ := exists_validate_of_argv h
  have hexplicit :=
    Parameters.isSome_of_checkDestination (Parameters.checkDestination_of_validate hvalid)
  exact ⟨⟨macs, hvalid⟩, hexplicit ▸ g.isCommandLine_arguments p macs⟩

/-- There is always a program to start. -/
theorem argv_ne_nil {g : GeneratorCommand} {p : Parameters} {argv : List String}
    (h : g.argv p = .ok argv) : argv ≠ [] := by
  obtain ⟨rest, rfl⟩ := (isCommandLine_of_argv h).2.configured
  exact List.cons_ne_nil _ _

end GeneratorCommand
end LoadBench

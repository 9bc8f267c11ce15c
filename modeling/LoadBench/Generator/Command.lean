import LoadBench.Configuration
import LoadBench.Generator.Parameters

/-! The command line of the generator. -/
namespace LoadBench

/-- What is the same in all command lines. -/
structure GeneratorCommand where
  program : String
  trafficGenerator : String
  extraArgs : List String := []
  deriving DecidableEq, Repr

namespace GeneratorCommand

def ofConfiguration (c : Configuration) : GeneratorCommand :=
  ⟨c.generatorProgram, c.trafficGenerator, c.extraArgs⟩

def destinationArgument (macs : List Mac) : String :=
  "--dst-macs=" ++ String.intercalate "," (macs.map Address.text)

/-- The arguments for parameters that are valid; percentages have six places. -/
def arguments (g : GeneratorCommand) (p : Parameters) (macs : Option (List Mac)) : List String :=
  [g.program, s!"--traffic-generator={g.trafficGenerator}", s!"--device-pairs={p.devicePairs}"] ++
  (macs.map destinationArgument).toList ++
  [s!"--search-runtime={p.searchRuntime.toNat}",
    s!"--validation-runtime={p.validationRuntime.toNat}", s!"--num-flows={p.numFlows.toNat}",
    s!"--frame-size={p.frameSize.toNat}", s!"--max-loss-pct={p.maxLoss.fixedText 6}",
    s!"--sniff-runtime={p.sniffRuntime.toNat}",
    s!"--search-granularity={p.granularity.fixedText 6}", "--rate-tolerance=50",
    "--runtime-tolerance=50", "--negative-packet-loss=fail", "--rate-tolerance-failure=fail"] ++
  g.extraArgs

/-- The whole command line, or why the parameters are refused. -/
def argv (g : GeneratorCommand) (p : Parameters) : Except ParameterError (List String) :=
  p.validate.map (g.arguments p)

end GeneratorCommand
end LoadBench

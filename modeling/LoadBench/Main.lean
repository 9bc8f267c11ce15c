import LoadBench.CommandLine.FlowTool

/-! The command line of the flow tool. -/
open LoadBench CommandLine

private def usage (g : Grammar) : String :=
  let line (o : OptionSpec) : String :=
    "  --" ++ o.name ++ (if o.kind = .flag then "" else " <" ++ o.name ++ ">") ++ "\n"
  "Options:\n" ++ String.join (g.options.map line) ++ "  --help\n"

def main (args : List String) : IO UInt32 := do
  match FlowTool.grammar.read args with
  | .error .help =>
    IO.print (usage FlowTool.grammar)
    return 0
  | .error .usage =>
    IO.eprint (usage FlowTool.grammar)
    return 2
  | .ok a =>
    let outcome := FlowTool.run a
    IO.print outcome.stdout
    IO.eprint outcome.stderr
    return UInt32.ofNat outcome.exitCode

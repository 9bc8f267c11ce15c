/-! Marks for faults that are described elsewhere. -/
namespace LoadBench

/-- A fault that the operating system or the JSON reader finds. Messages do not describe it: a mark
stands where a description would. -/
inductive Fault | io | json
  deriving DecidableEq, Repr

def Fault.text : Fault → String
  | .io => "<io>"
  | .json => "<json>"

end LoadBench

import LoadBench.Trial.Artifact

/-! Whether the latest trial passed, and its result, read from the artifact each time. -/
namespace LoadBench

inductive Availability
  | passed
  | notPassed (result : Option String)
  | unreadable (why : ArtifactError)
  deriving DecidableEq, Repr

def Availability.isAvailable : Availability → Bool
  | .passed => true
  | _ => false

/-- A file that holds the artifact, and the path it is known by. -/
structure ResultStore where
  path : String
  file : File
  deriving DecidableEq, Repr

namespace ResultStore

def latestTrial (s : ResultStore) : Except ArtifactError Trial :=
  Artifact.load s.path s.file >>= Artifact.latest

/-- Whether the latest trial passed; only the trial's result is looked at. -/
def availability (s : ResultStore) : Availability :=
  match s.latestTrial with
  | .error e => .unreadable e
  | .ok t =>
    if t.result.isNone then .unreadable (.missingField "result")
    else if t.passed then .passed
    else .notPassed t.resultText

def isAvailable (s : ResultStore) : Bool := s.availability.isAvailable

/-- The result of the latest trial, or why there is none. -/
def result (s : ResultStore) : Except ArtifactError TrialResult := s.latestTrial >>= Trial.toResult

/-- The result of the latest trial, or the empty one. -/
def resultOrEmpty (s : ResultStore) : TrialResult := s.result.toOption.getD {}

end ResultStore
end LoadBench

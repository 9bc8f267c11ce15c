import LoadBench.Error
import LoadBench.Fault
import LoadBench.Zmtp.Frame

/-! Why the addresses of the generator's ports cannot be told. -/
namespace LoadBench

inductive PortQueryError
  | noPorts
  | unreadable (path : String)
  | format (e : FormatError)
  | transport (e : Zmtp.Error)
  | malformedReply
  | noResult (method : String)
  | noHandle
  | refused (method : String) (code : Int) (reason : String)
  | missingPort (index : UInt32)
  deriving DecidableEq, Repr

def PortQueryError.message : PortQueryError → String
  | .noPorts => "no generator ports configured"
  | .unreadable path => s!"failed to read {path}: {Fault.io.text}"
  | .format e => e.message
  | .transport e => s!"port query transport failed: {e.message}"
  | .malformedReply => s!"malformed port query reply: {Fault.json.text}"
  | .noResult method => s!"port query protocol error: {method} reply has no result"
  | .noHandle => "port query protocol error: api_sync_v2 returned no api_h"
  | .refused method code reason => s!"{method} failed with code {code}: {reason}"
  | .missingPort index => s!"port {index.toNat} not reported by the generator"

end LoadBench

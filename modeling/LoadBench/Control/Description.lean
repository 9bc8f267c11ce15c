import LoadBench.Control.Message
import LoadBench.Text.Quoted

/-! Responses spelled out for error messages, field by field. -/
namespace LoadBench

private def record (name : String) (fields : List (String × String)) : String :=
  let parts := fields.map fun (field, value) => field ++ ": " ++ value
  name ++ " \x7b " ++ String.intercalate ", " parts ++ " \x7d"

private def sequence (items : List String) : String := "[" ++ String.intercalate ", " items ++ "]"

private def inside (name content : String) : String := name ++ "(" ++ content ++ ")"

def PortStatistics.describe (s : PortStatistics) : String :=
  record "PortStats" (("port_id", s.portId.toNat.repr) ::
    PortStatistics.counterNames.zip (s.counters.map (·.text .pointed)))

def TrialResult.describe (r : TrialResult) : String :=
  record "TrialResult"
    [("pass", toString r.pass), ("stats", sequence (r.stats.map PortStatistics.describe))]

def Response.describe : Response → String
  | .success ok => inside "Success" (record "Success" [("success", toString ok)])
  | .runningStatus b =>
    inside "RunningStatus" (record "RunningStatus" [("is_running", toString b)])
  | .availabilityStatus b =>
    inside "AvailabilityStatus"
      (record "AvailabilityStatus" [("is_result_available", toString b)])
  | .status running available =>
    inside "Status" (record "ServiceStatus"
      [("running", toString running), ("result_available", toString available)])
  | .trialResult r => inside "TrialResult" r.describe
  | .resultUnavailable => "ResultUnavailable"
  | .macList macs =>
    inside "MacList" (record "MacListResult" [("mac_list", sequence (macs.map Text.quoted))])
  | .error message => record "Error" [("message", Text.quoted message)]

end LoadBench

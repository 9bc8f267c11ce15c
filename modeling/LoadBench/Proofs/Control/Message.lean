import LoadBench.Proofs.Control.Arrangement

/-! Messages with finite numbers are read back from their lines. -/
namespace LoadBench

open Json (Tree)

namespace PortStatistics

def Finite (s : PortStatistics) : Prop := ∀ x ∈ s.counters, x.isFinite = true

/-- The members of a port's record. -/
def members (s : PortStatistics) : List (String × Tree) :=
  ("port_id", .ofNat s.portId.toNat) :: counterNames.zip (s.counters.map .ofFloat)

theorem json_eq (s : PortStatistics) : s.json = Tree.record s.members := rfl

theorem names_members (s : PortStatistics) :
    s.members.map Prod.fst = "port_id" :: counterNames := rfl

theorem nodup_names (s : PortStatistics) : (s.members.map Prod.fst).Nodup := by
  rw [names_members]
  decide

theorem record?_json (s : PortStatistics) :
    s.json.record? ("port_id" :: counterNames) = some fun name => s.members.lookup name := by
  rw [json_eq, ← names_members s]
  exact Tree.record?_record s.nodup_names fun m hm => List.mem_map_of_mem hm

theorem lookup_counter (s : PortStatistics) {p : String × Binary64}
    (hp : p ∈ counterNames.zip s.counters) : s.members.lookup p.1 = some (.ofFloat p.2) := by
  apply Tree.lookup_of_mem s.nodup_names
  apply List.mem_cons_of_mem
  rw [List.zip_map_right]
  exact List.mem_map.2 ⟨p, hp, rfl⟩

theorem ofJson?_json {s : PortStatistics} (h : s.Finite) : ofJson? s.json = some s := by
  have hcounters : (counterNames.mapM fun name => (s.members.lookup name).bind Tree.float?) =
      some s.counters := by
    refine Tree.mapM_fields rfl fun p hp => ?_
    rw [s.lookup_counter hp, Option.bind_some, Tree.float?_ofFloat (h p.2 (List.of_mem_zip hp).2)]
  have hid : s.members.lookup "port_id" = some (.ofNat s.portId.toNat) := List.lookup_cons_self
  unfold ofJson?
  rw [s.record?_json]
  simp only [Option.bind_eq_bind, Option.bind_some, hid, Tree.uint32?_ofNat, hcounters]
  rfl

theorem written_json (s : PortStatistics) : s.json.Written := by
  apply Tree.written_record
  simp [counterNames, counters, Tree.written_ofNat, Tree.written_ofFloat]

end PortStatistics

namespace TrialResult

def Finite (r : TrialResult) : Prop := ∀ s ∈ r.stats, s.Finite

theorem ofJson?_json {r : TrialResult} (h : r.Finite) : ofJson? r.json = some r := by
  have hstats := Tree.list?_array fun s hs => PortStatistics.ofJson?_json (h s hs)
  unfold ofJson? json
  rw [Tree.record?_record (by simp) (by simp)]
  simp [List.lookup_cons, hstats]

theorem written_json (r : TrialResult) : r.json.Written := by
  apply Tree.written_record
  simp [Tree.Written.bool, Tree.written_map r.stats PortStatistics.written_json]

end TrialResult

theorem parse?_lineOf {α : Type} {read : Tree → Option α} {t : Tree} (h : t.Written) :
    (Tree.parse? (lineOf t)).bind read = read t := by
  rw [lineOf, Tree.parse?_print_newline h, Option.bind_some]

namespace Request

theorem written_json (r : Request) : r.json.Written := r.isArrangement_json.written

theorem ofJson?_json {r : Request} (h : r.Finite) : ofJson? r.json = some r :=
  r.isArrangement_json.ofJson? h

/-- A request is read back from its line. -/
theorem parse?_line {r : Request} (h : r.Finite) : parse? (lineOf r.json) = some r := by
  rw [parse?, parse?_lineOf r.written_json, ofJson?_json h]

end Request

namespace Response

def Finite : Response → Prop
  | .trialResult r => r.Finite
  | _ => True

theorem written_json (r : Response) : r.json.Written := by
  apply Tree.written_record
  cases r with
  | trialResult r => simp [bodyJson?, Tree.written_ofText, r.written_json]
  | resultUnavailable => simp [bodyJson?, Tree.written_ofText]
  | macList macs =>
    have hmacs := Tree.written_map macs Tree.written_ofText
    simp [bodyJson?, Tree.written_ofText, Tree.written_record, hmacs]
  | _ => simp [bodyJson?, Tree.written_ofText, Tree.written_record, Tree.Written.bool]

theorem single?_record {α : Type} (name : String) (read : Tree → Option α) (t : Tree) :
    single? name read (Tree.record [(name, t)]) = read t := by
  unfold single?
  rw [Tree.record?_record (by simp) (by simp)]
  simp

theorem json_of_body {r : Response} {body : Tree} (h : r.bodyJson? = some body) :
    r.json = Tree.record [("kind", .ofText r.kind), ("body", body)] := by
  rw [json, h]
  rfl

theorem ofJson?_of_body {r : Response} {body : Tree} (h : r.bodyJson? = some body) :
    ofJson? r.json = ofBody? r.kind body := by
  rw [json_of_body h, ofJson?, Tree.tagged?_record]
  rfl

/-- A response whose body has one field. -/
theorem ofJson?_of_single {α : Type} (read : Tree → Option α) (make : α → Response) {a : α}
    {name : String} {field : Tree} (hbody : (make a).bodyJson? = some (.record [(name, field)]))
    (hkind : ofBody? (make a).kind (.record [(name, field)]) =
      (single? name read (.record [(name, field)])).map make)
    (hread : read field = some a) : ofJson? (make a).json = some (make a) := by
  rw [ofJson?_of_body hbody, hkind, single?_record, hread, Option.map_some]

theorem ofJson?_json {r : Response} (h : r.Finite) : ofJson? r.json = some r := by
  cases r with
  | success ok => exact ofJson?_of_single Tree.bool? success rfl rfl rfl
  | runningStatus b => exact ofJson?_of_single Tree.bool? runningStatus rfl rfl rfl
  | availabilityStatus b => exact ofJson?_of_single Tree.bool? availabilityStatus rfl rfl rfl
  | status running available =>
    rw [ofJson?_of_body rfl]
    show statusOfJson? (Tree.record _) = _
    rw [statusOfJson?, Tree.record?_record (by simp) (by simp)]
    rfl
  | trialResult r =>
    rw [ofJson?_of_body rfl]
    show (TrialResult.ofJson? r.json).map trialResult = _
    rw [TrialResult.ofJson?_json h]
    rfl
  | resultUnavailable =>
    show ofJson? (Tree.record [("kind", .ofText "result_unavailable")]) = _
    rw [ofJson?, Tree.tagged?_tag]
    rfl
  | macList macs =>
    have hmacs := Tree.list?_array fun (s : String) (_ : s ∈ macs) => Tree.text?_ofText s
    exact ofJson?_of_single (Tree.list? Tree.text?) macList rfl rfl hmacs
  | error message =>
    exact ofJson?_of_single Tree.text? error rfl rfl (Tree.text?_ofText message)

/-- A response is read back from its line. -/
theorem parse?_line {r : Response} (h : r.Finite) : parse? (lineOf r.json) = some r := by
  rw [parse?, parse?_lineOf r.written_json, ofJson?_json h]

end Response
end LoadBench

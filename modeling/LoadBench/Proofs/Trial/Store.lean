import LoadBench.Proofs.Control.Message
import LoadBench.Proofs.Fallible
import LoadBench.Proofs.Json.Value
import LoadBench.Trial.Store

/-! Results that are read from an artifact hold finite numbers only. -/
namespace LoadBench

open Json (Tree Value)

namespace Trial

/-- The statistics as they were decoded. -/
def Bounded (t : Trial) : Prop := ∀ ms, t.stats = some ms → ∀ m ∈ ms, m.2.Bounded

theorem exists_tree_of_optionalValue? {enclosing : Nat} {t : Option Tree} {v : Value}
    (h : optionalValue? enclosing t = some (some v)) :
    ∃ (u : Tree) (levels : Nat), u.value? levels = some v := by
  unfold optionalValue? at h
  split at h
  · cases h
  · split at h
    · cases h
    · obtain ⟨w, hw, hv⟩ := Option.map_eq_some_iff.1 h
      cases hv
      exact ⟨_, _, hw⟩

/-- The statistics of a trial were decoded as one value. -/
theorem exists_tree_of_stats {json : Tree} {t : Trial} (h : ofJson? json = some t)
    {ms : List (String × Value)} (hms : t.stats = some ms) :
    ∃ (u : Tree) (levels : Nat), u.value? levels = some (.map ms) := by
  obtain ⟨field, -, h⟩ := Option.bind_eq_some_iff.1 h
  obtain ⟨result, -, h⟩ := Option.bind_eq_some_iff.1 h
  obtain ⟨stats, hstats, h⟩ := Option.bind_eq_some_iff.1 h
  split at h
  · cases h
    cases hms
  · cases h
    cases hms
    exact exists_tree_of_optionalValue? hstats
  · cases h

theorem bounded_of_ofJson? {json : Tree} {t : Trial} (h : ofJson? json = some t) : t.Bounded := by
  intro ms hms m hm
  obtain ⟨u, levels, hu⟩ := exists_tree_of_stats h hms
  cases Json.bounded_of_value? u hu with
  | map members_bounded => exact members_bounded m hm

theorem isFinite_of_counters? {v : Value} (hv : v.Bounded) {xs : List Binary64}
    (h : counters? v = some xs) : ∀ x ∈ xs, x.isFinite = true := by
  obtain ⟨field, hfield, h⟩ := Option.bind_eq_some_iff.1 h
  intro x hx
  obtain ⟨name, -, hname⟩ := mem_of_mapM h hx
  obtain ⟨w, hw, hx⟩ := Option.bind_eq_some_iff.1 hname
  exact (hv.field hfield hw).float?_isFinite hx

theorem finite_of_portStatistics {key : String} {v : Value} (hv : v.Bounded)
    {s : PortStatistics} (h : portStatistics key v = .ok s) : s.Finite := by
  unfold portStatistics at h
  split at h
  · cases h
  · split at h
    · cases h
    · rename_i hs
      cases h
      obtain ⟨xs, hxs, hs⟩ := Option.bind_eq_some_iff.1 hs
      have hfinite := isFinite_of_counters? hv hxs
      unfold PortStatistics.ofCounters? at hs
      split at hs
      · cases hs
        exact hfinite
      · cases hs

theorem finite_of_toResult {t : Trial} (ht : t.Bounded) {r : TrialResult}
    (h : t.toResult = .ok r) : r.Finite := by
  unfold toResult at h
  split at h
  · rename_i stats hstats
    obtain ⟨ports, hports, h⟩ := bind_eq_ok h
    cases h
    intro s hs
    obtain ⟨m, hm, hs⟩ := mem_of_mapM_ok hports (List.mem_mergeSort.1 hs)
    exact finite_of_portStatistics (ht stats hstats m (List.mem_filter.1 hm).1) hs
  · cases h

end Trial

namespace Artifact

/-- Each trial of an artifact was decoded. -/
theorem exists_json_of_parse? {text : List UInt8} {a : Artifact} (h : parse? text = some a) :
    ∀ t ∈ a.trials, ∃ json, Trial.ofJson? json = some t := by
  obtain ⟨json, -, h⟩ := Option.bind_eq_some_iff.1 h
  obtain ⟨field, -, h⟩ := Option.bind_eq_some_iff.1 h
  obtain ⟨json, -, h⟩ := Option.bind_eq_some_iff.1 h
  obtain ⟨trials, htrials, rfl⟩ := Option.map_eq_some_iff.1 h
  intro t ht
  unfold Tree.list? at htrials
  split at htrials
  · obtain ⟨json, -, hjson⟩ := mem_of_mapM htrials ht
    exact ⟨json, hjson⟩
  · cases htrials

/-- Octets are read as they stand, if they are UTF-8. -/
theorem load_octets (path : String) (content : List UInt8) :
    load path (.octets content) =
      if (Utf8.decode? content).isSome then (parse? content).elim (.error .malformed) .ok
      else .error (.unreadable path) := by
  unfold load File.text
  dsimp only
  cases hd : Utf8.decode? content with
  | none => rfl
  | some s =>
    dsimp only
    rw [Utf8.encode_of_decode? hd]
    rfl

theorem load_encode (path text : String) :
    load path (.octets (Utf8.encode text)) =
      (parse? (Utf8.encode text)).elim (.error .malformed) .ok := by
  rw [load_octets, Utf8.decode?_encode]
  rfl

theorem parse?_of_load {path : String} {file : File} {a : Artifact} (h : load path file = .ok a) :
    ∃ content, file = .octets content ∧ parse? content = some a := by
  cases file with
  | absent => cases h
  | unreadable => cases h
  | octets content =>
    refine ⟨content, rfl, ?_⟩
    rw [load_octets] at h
    split at h
    · cases hp : parse? content with
      | none =>
        rw [hp] at h
        cases h
      | some b =>
        rw [hp] at h
        cases h
        rfl
    · cases h

end Artifact

namespace ResultStore

theorem exists_json_latestTrial {s : ResultStore} {t : Trial} (h : s.latestTrial = .ok t) :
    ∃ json, Trial.ofJson? json = some t := by
  obtain ⟨a, ha, hlatest⟩ := bind_eq_ok h
  obtain ⟨content, -, hparse⟩ := Artifact.parse?_of_load ha
  exact Artifact.exists_json_of_parse? hparse t (List.mem_of_getLast? (elim_eq_ok_iff.1 hlatest))

theorem bounded_latestTrial {s : ResultStore} {t : Trial} (h : s.latestTrial = .ok t) :
    t.Bounded := by
  obtain ⟨json, hjson⟩ := exists_json_latestTrial h
  exact Trial.bounded_of_ofJson? hjson

theorem finite_of_result {s : ResultStore} {r : TrialResult} (h : s.result = .ok r) :
    r.Finite := by
  obtain ⟨t, ht, h⟩ := bind_eq_ok h
  exact Trial.finite_of_toResult (bounded_latestTrial ht) h

/-- What a store gives out has finite numbers only. -/
theorem finite_resultOrEmpty (s : ResultStore) : s.resultOrEmpty.Finite := by
  unfold resultOrEmpty
  cases h : s.result with
  | error e => exact fun _ hs => nomatch hs
  | ok r => exact finite_of_result h

end ResultStore
end LoadBench

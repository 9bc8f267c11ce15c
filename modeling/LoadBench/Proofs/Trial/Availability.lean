import LoadBench.Control.Service
import LoadBench.Proofs.Trial.Store

/-! Availability and extraction. A result is available by the word of the latest trial alone, while
its counters may still turn out to be missing or wrong. -/
namespace LoadBench

open Json (Value)

namespace Trial

theorem passed_iff (t : Trial) : t.passed = true ↔ t.result = some (.text "pass") := by
  unfold passed
  rw [beq_iff_eq]
  constructor
  · intro h
    obtain ⟨v, hv, htext⟩ := Option.bind_eq_some_iff.1 h
    unfold Value.text? at htext
    split at htext
    · cases htext
      exact hv
    · cases htext
  · intro h
    rw [h]
    rfl

theorem pass_of_toResult {t : Trial} {r : TrialResult} (h : t.toResult = .ok r) :
    r.pass = t.passed := by
  unfold toResult at h
  split at h
  · obtain ⟨ports, -, h⟩ := bind_eq_ok h
    cases h
    rfl
  · cases h

theorem portStatistics_eq_error {key : String} {v : Value} {e : ArtifactError}
    (h : portStatistics key v = .error e) : ∃ fault, e = .badStatistics key fault := by
  unfold portStatistics at h
  split at h
  · cases h
    exact ⟨_, rfl⟩
  · split at h
    · cases h
      exact ⟨_, rfl⟩
    · cases h

/-- Extraction fails on the statistics only. -/
theorem toResult_eq_error {t : Trial} {e : ArtifactError} (h : t.toResult = .error e) :
    e = .missingField "stats" ∨ ∃ port fault, e = .badStatistics port fault := by
  unfold toResult at h
  split at h
  · right
    rcases bind_eq_error h with hports | ⟨ports, -, h⟩
    · obtain ⟨m, -, hm⟩ := mem_of_mapM_error hports
      obtain ⟨fault, he⟩ := portStatistics_eq_error hm
      exact ⟨m.1, fault, he⟩
    · cases h
  · cases h
    exact .inl rfl

end Trial

namespace ResultStore

theorem isAvailable_iff (s : ResultStore) :
    s.isAvailable = true ↔ ∃ t, s.latestTrial = .ok t ∧ t.result = some (.text "pass") := by
  unfold isAvailable availability
  cases hlatest : s.latestTrial with
  | error e => simp [Availability.isAvailable]
  | ok t =>
    dsimp only
    by_cases hpassed : t.passed = true
    · have hresult := t.passed_iff.1 hpassed
      simp [hresult, hpassed, Availability.isAvailable]
    · have hresult : t.result ≠ some (.text "pass") := fun h => hpassed (t.passed_iff.2 h)
      cases hnone : t.result.isNone <;> simp [hresult, hpassed, Availability.isAvailable]

/-- The latest trial of an artifact that is a text with a single trial. -/
theorem latestTrial_of_parse? {path text : String} {t : Trial}
    (h : Artifact.parse? (Utf8.encode text) = some ⟨[t]⟩) :
    latestTrial ⟨path, .octets (Utf8.encode text)⟩ = .ok t := by
  unfold latestTrial
  dsimp only
  rw [Artifact.load_encode, h]
  rfl

theorem result_of_latestTrial {s : ResultStore} {t : Trial} (h : s.latestTrial = .ok t) :
    s.result = t.toResult := by
  unfold result
  rw [h]
  rfl

/-- Without a latest trial nothing is available, and the result is the empty one. -/
theorem answers_of_latestTrial_error {s : ResultStore} {e : ArtifactError}
    (h : s.latestTrial = .error e) :
    s.availability = .unreadable e ∧ s.isAvailable = false ∧ s.result = .error e ∧
      s.resultOrEmpty = {} := by
  have havailability : s.availability = .unreadable e := by
    unfold availability
    rw [h]
  have hresult : s.result = .error e := by
    unfold result
    rw [h]
    rfl
  refine ⟨havailability, ?_, hresult, ?_⟩
  · unfold isAvailable
    rw [havailability]
    rfl
  · unfold resultOrEmpty
    rw [hresult]
    rfl

end ResultStore

namespace Service

/-- A result is given out when the latest trial passed. It is the trial's result, which then tells
so, or the empty one when the trial's statistics cannot be read. -/
theorem getResult_eq_some_iff (s : Service) (site : Site) (r : TrialResult) :
    s.getResult site = some r ↔
      (∃ t, (s.results site).latestTrial = .ok t ∧ t.result = some (.text "pass")) ∧
        ((s.results site).result = .ok r ∧ r.pass = true ∨
          r = {} ∧ ((s.results site).result = .error (.missingField "stats") ∨
            ∃ port fault, (s.results site).result = .error (.badStatistics port fault))) := by
  have hgiven : s.getResult site = some r ↔
      (s.results site).isAvailable = true ∧ (s.results site).resultOrEmpty = r := by
    unfold getResult isResultAvailable
    cases (s.results site).isAvailable <;> simp
  rw [hgiven, ResultStore.isAvailable_iff]
  refine and_congr_right fun ⟨t, hlatest, hresult⟩ => ?_
  unfold ResultStore.resultOrEmpty
  rw [ResultStore.result_of_latestTrial hlatest]
  cases hextracted : t.toResult with
  | ok r' =>
    have hpass : r'.pass = true :=
      (Trial.pass_of_toResult hextracted).trans (t.passed_iff.2 hresult)
    constructor
    · rintro rfl
      exact .inl ⟨rfl, hpass⟩
    · rintro (⟨h, -⟩ | ⟨-, h | ⟨_, _, h⟩⟩) <;> cases h
      rfl
  | error e =>
    constructor
    · rintro rfl
      rcases Trial.toResult_eq_error hextracted with rfl | ⟨port, fault, rfl⟩
      · exact .inr ⟨rfl, .inl rfl⟩
      · exact .inr ⟨rfl, .inr ⟨port, fault, rfl⟩⟩
    · rintro (⟨h, -⟩ | ⟨rfl, -⟩)
      · cases h
      · rfl

/-- A trial that passed without statistics: its result is given out as one that did not pass. -/
theorem getResult_without_statistics :
    let s : Service := ⟨⟨"gen"⟩, ⟨"gen", "trex", []⟩, "r.json", .sysfs "" []⟩
    let site : Site :=
      { artifact := .octets (Utf8.encode "\x7b\"trials\":[\x7b\"result\":\"pass\"\x7d]\x7d") }
    s.getResult site = some {} ∧ (s.results site).result = .error (.missingField "stats") ∧
      ¬∀ r, s.getResult site = some r → (s.results site).result = .ok r ∧ r.pass = true := by
  intro s site
  have hgiven : s.getResult site = some {} := by decide +kernel
  have hfailed : (s.results site).result = .error (.missingField "stats") := by decide +kernel
  refine ⟨hgiven, hfailed, fun h => ?_⟩
  exact absurd (h {} hgiven).2 Bool.false_ne_true

end Service
end LoadBench

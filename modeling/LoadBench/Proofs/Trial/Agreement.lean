import LoadBench.Proofs.Trial.Availability

/-!
Availability and extraction are two readers of one file.

Main statement: they fail together on the file as a whole, they agree on whether the latest trial
passed, and of an artifact both see its latest trial only.
-/
namespace LoadBench

open Json (Value)

/-- Faults of the file as a whole: it is not there, no text, no artifact, or without a trial. -/
inductive ArtifactError.IsOfFile : ArtifactError → Prop
  | missing (path : String) : IsOfFile (.missing path)
  | unreadable (path : String) : IsOfFile (.unreadable path)
  | malformed : IsOfFile .malformed
  | noTrials : IsOfFile .noTrials

/-- Of the latest trial only its members can be missed or wrong. -/
theorem Trial.not_isOfFile_of_toResult {t : Trial} {e : ArtifactError}
    (h : t.toResult = .error e) : ¬e.IsOfFile := by
  rcases Trial.toResult_eq_error h with rfl | ⟨port, fault, rfl⟩
  · rintro ⟨⟩
  · rintro ⟨⟩

namespace ResultStore

/-- The artifact is there, and its latest trial has the word `pass`, as a string, for its result. -/
def HasPassed (s : ResultStore) : Prop :=
  ∃ before t, Artifact.load s.path s.file = .ok ⟨before ++ [t]⟩ ∧ t.result = some (.text "pass")

theorem latestTrial_of_load {s : ResultStore} {before : List Trial} {t : Trial}
    (h : Artifact.load s.path s.file = .ok ⟨before ++ [t]⟩) : s.latestTrial = .ok t := by
  have hlast : Artifact.latest ⟨before ++ [t]⟩ = .ok t := by
    unfold Artifact.latest
    rw [List.getLast?_concat]
    rfl
  unfold latestTrial
  rw [h]
  exact hlast

theorem load_of_latestTrial {s : ResultStore} {t : Trial} (h : s.latestTrial = .ok t) :
    ∃ before, Artifact.load s.path s.file = .ok ⟨before ++ [t]⟩ := by
  obtain ⟨⟨trials⟩, hload, hlatest⟩ := bind_eq_ok h
  obtain ⟨before, rfl⟩ := List.getLast?_eq_some_iff.1 (elim_eq_ok_iff.1 hlatest)
  exact ⟨before, hload⟩

theorem hasPassed_iff (s : ResultStore) :
    s.HasPassed ↔ ∃ t, s.latestTrial = .ok t ∧ t.result = some (.text "pass") := by
  constructor
  · rintro ⟨before, t, hload, hresult⟩
    exact ⟨t, latestTrial_of_load hload, hresult⟩
  · rintro ⟨t, hlatest, hresult⟩
    obtain ⟨before, hload⟩ := load_of_latestTrial hlatest
    exact ⟨before, t, hload, hresult⟩

theorem availability_eq_passed_iff (s : ResultStore) : s.availability = .passed ↔ s.HasPassed := by
  rw [hasPassed_iff, ← isAvailable_iff, isAvailable]
  cases s.availability <;> simp [Availability.isAvailable]

/-- What a file does wrong as a whole stops both readers. -/
theorem result_eq_error_iff {s : ResultStore} {e : ArtifactError} (he : e.IsOfFile) :
    s.result = .error e ↔ s.availability = .unreadable e := by
  cases hlatest : s.latestTrial with
  | error e' =>
    obtain ⟨havailability, -, hresult, -⟩ := answers_of_latestTrial_error hlatest
    rw [havailability, hresult, Except.error.injEq, Availability.unreadable.injEq]
  | ok t =>
    have hextracts : s.result ≠ .error e := fun h =>
      Trial.not_isOfFile_of_toResult (result_of_latestTrial hlatest ▸ h) he
    have havails : s.availability ≠ .unreadable e := by
      unfold availability
      rw [hlatest]
      dsimp only
      split_ifs
      · rintro ⟨⟩
        cases he
      · rintro ⟨⟩
      · rintro ⟨⟩
    exact iff_of_false hextracts havails

theorem pass_iff {s : ResultStore} {r : TrialResult} (h : s.result = .ok r) :
    r.pass = true ↔ s.availability = .passed := by
  obtain ⟨t, hlatest, hextracted⟩ := bind_eq_ok h
  rw [Trial.pass_of_toResult hextracted, Trial.passed_iff, availability_eq_passed_iff,
    hasPassed_iff]
  constructor
  · exact fun hresult => ⟨t, hlatest, hresult⟩
  · rintro ⟨t', hlatest', hresult⟩
    rw [hlatest] at hlatest'
    cases hlatest'
    exact hresult

/-- Nothing but the latest trial, or the fault on the way to it, is looked at. -/
theorem answers_eq_of_latestTrial_eq {s s' : ResultStore} (h : s.latestTrial = s'.latestTrial) :
    s.availability = s'.availability ∧ s.result = s'.result ∧
      s.resultOrEmpty = s'.resultOrEmpty := by
  have havailability : s.availability = s'.availability := by
    unfold availability
    rw [h]
  have hresult : s.result = s'.result := by
    unfold result
    rw [h]
  refine ⟨havailability, hresult, ?_⟩
  unfold resultOrEmpty
  rw [hresult]

/-- The two readers agree on every file. A fault of the file as a whole is reported by both; a
result that comes out says that the trial passed exactly when it is available, which is when the
trial's result is the string `pass`; what is given out is that result, or else the empty one that
did not pass; and trials before the latest one have no influence. -/
theorem readers_agree (s : ResultStore) :
    (∀ e : ArtifactError, e.IsOfFile → (s.result = .error e ↔ s.availability = .unreadable e)) ∧
    (∀ r, s.result = .ok r → (r.pass = true ↔ s.availability = .passed)) ∧
    (s.availability = .passed ↔ s.HasPassed) ∧
    (∀ r, s.result = .ok r → s.resultOrEmpty = r) ∧
    (∀ e, s.result = .error e → s.resultOrEmpty = ⟨false, []⟩) ∧
    ∀ (s' : ResultStore) (before before' : List Trial) (t : Trial),
      Artifact.load s.path s.file = .ok ⟨before ++ [t]⟩ →
      Artifact.load s'.path s'.file = .ok ⟨before' ++ [t]⟩ →
      s.availability = s'.availability ∧ s.result = s'.result ∧
        s.resultOrEmpty = s'.resultOrEmpty := by
  refine ⟨fun e he => result_eq_error_iff he, fun r hr => pass_iff hr,
    s.availability_eq_passed_iff, ?_, ?_, ?_⟩
  · intro r hr
    unfold resultOrEmpty
    rw [hr]
    rfl
  · intro e he
    unfold resultOrEmpty
    rw [he]
    rfl
  · intro s' before before' t hload hload'
    apply answers_eq_of_latestTrial_eq
    rw [latestTrial_of_load hload, latestTrial_of_load hload']

/-- A file that is not there, and two artifacts whose latest trial passed: after one that failed,
and as the only one. -/
theorem readers_agree_absent_and_repeated :
    let absent : ResultStore := ⟨"r.json", .absent⟩
    let s : ResultStore := ⟨"r.json", .octets (Utf8.encode ("\x7b\"trials\":[" ++
      "\x7b\"result\":\"fail\"\x7d,\x7b\"result\":\"pass\",\"stats\":\x7b\x7d\x7d]\x7d"))⟩
    let s' : ResultStore := ⟨"q.json", .octets (Utf8.encode
      "\x7b\"trials\":[\x7b\"stats\":\x7b\x7d,\"result\":\"\\u0070ass\"\x7d]\x7d")⟩
    let latest : Trial := ⟨some (.text "pass"), some []⟩
    let r : TrialResult := ⟨true, []⟩
    (ArtifactError.missing "r.json").IsOfFile ∧
      (absent.result = .error (.missing "r.json") ↔
        absent.availability = .unreadable (.missing "r.json")) ∧
      absent.result = .error (.missing "r.json") ∧ absent.resultOrEmpty = ⟨false, []⟩ ∧
      s.result = .ok r ∧ (r.pass = true ↔ s.availability = .passed) ∧ s.resultOrEmpty = r ∧
      Artifact.load s.path s.file = .ok ⟨[⟨some (.text "fail"), none⟩] ++ [latest]⟩ ∧
      Artifact.load s'.path s'.file = .ok ⟨[] ++ [latest]⟩ ∧
      s.availability = s'.availability ∧ s.result = s'.result ∧
        s.resultOrEmpty = s'.resultOrEmpty := by
  intro absent s s' latest r
  have hmissing : (ArtifactError.missing "r.json").IsOfFile := .missing _
  have habsent : absent.result = .error (.missing "r.json") := rfl
  have hresult : s.result = .ok r := by decide +kernel
  have hload : Artifact.load s.path s.file = .ok ⟨[⟨some (.text "fail"), none⟩] ++ [latest]⟩ := rfl
  have hload' : Artifact.load s'.path s'.file = .ok ⟨[] ++ [latest]⟩ := rfl
  obtain ⟨hfaults, -, -, -, hempty, -⟩ := readers_agree absent
  obtain ⟨-, hpass, -, hgiven, -, hlatest⟩ := readers_agree s
  exact ⟨hmissing, hfaults _ hmissing, habsent, hempty _ habsent, hresult, hpass _ hresult,
    hgiven _ hresult, hload, hload', hlatest s' _ _ latest hload hload'⟩

end ResultStore
end LoadBench

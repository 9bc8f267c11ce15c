import LoadBench.Proofs.Json.Prefix
import LoadBench.Proofs.Trial.Availability

/-! Artifacts that are only half written. A file that breaks off before the last octet of its
artifact holds no artifact, wherever it breaks off. -/
namespace LoadBench

open Json (Tree isSpace)

namespace Artifact

theorem ofJson?_number (n : Numeral) : ofJson? (.number n) = none := rfl

/-- What is missing of an artifact may be white space at most. -/
theorem parse?_prefix {front back : List UInt8} {a : Artifact}
    (h : parse? (front ++ back) = some a) (hback : ∃ b ∈ back, isSpace b = false) :
    parse? front = none := by
  obtain ⟨t, ht, ha⟩ := Option.bind_eq_some_iff.1 h
  unfold parse?
  cases hfront : Tree.parse? front with
  | none => rfl
  | some u =>
    obtain ⟨n, rfl⟩ := Tree.number_of_parse?_prefix ht hfront hback
    rw [ofJson?_number] at ha
    cases ha

theorem load_octets_of_parse?_eq_none {content : List UInt8} (h : parse? content = none)
    (path : String) :
    load path (.octets content) = .error .malformed ∨
      load path (.octets content) = .error (.unreadable path) := by
  rw [load_octets, h]
  cases (Utf8.decode? content).isSome with
  | true => exact .inl rfl
  | false => exact .inr rfl

end Artifact

namespace ResultStore

/-- Without an artifact there is no latest trial. -/
theorem answers_of_load_error {path : String} {file : File} {e : ArtifactError}
    (h : Artifact.load path file = .error e) :
    let s : ResultStore := ⟨path, file⟩
    s.availability = .unreadable e ∧ s.isAvailable = false ∧ s.result = .error e ∧
      s.resultOrEmpty = {} := by
  intro s
  apply answers_of_latestTrial_error
  unfold latestTrial
  rw [h]
  rfl

/-- A file that breaks off before the last octet of its artifact is never taken for a result. -/
theorem half_written {path : String} {front back : List UInt8} {a : Artifact}
    (h : Artifact.load path (.octets (front ++ back)) = .ok a)
    (hback : ∃ b ∈ back, isSpace b = false) :
    let s : ResultStore := ⟨path, .octets front⟩
    ∃ e, (e = .malformed ∨ e = .unreadable path) ∧ s.availability = .unreadable e ∧
      s.isAvailable = false ∧ s.result = .error e ∧ s.resultOrEmpty = {} := by
  obtain ⟨content, hcontent, hwhole⟩ := Artifact.parse?_of_load h
  cases hcontent
  have hparse := Artifact.parse?_prefix hwhole hback
  rcases Artifact.load_octets_of_parse?_eq_none hparse path with hload | hload
  · exact ⟨_, .inl rfl, answers_of_load_error hload⟩
  · exact ⟨_, .inr rfl, answers_of_load_error hload⟩

/-- A passing artifact, cut inside the two octets of a character, and with a line break behind its
last brace. -/
theorem half_written_inside_character :
    let front := Utf8.encode "\x7b\"trials\":[\x7b\"result\":\"pass\",\"note\":\"" ++ [0xC3]
    let back := [0xA9] ++ Utf8.encode "\"\x7d]\x7d\n"
    let s : ResultStore := ⟨"r.json", .octets front⟩
    (∃ a, Artifact.load "r.json" (.octets (front ++ back)) = .ok a) ∧
      (∃ b ∈ back, isSpace b = false) ∧
      ∃ e, (e = .malformed ∨ e = .unreadable "r.json") ∧ s.availability = .unreadable e ∧
        s.isAvailable = false ∧ s.result = .error e ∧ s.resultOrEmpty = {} := by
  intro front back s
  have hload : ∃ a, Artifact.load "r.json" (.octets (front ++ back)) = .ok a := by
    have hok : (Artifact.load "r.json" (.octets (front ++ back))).isOk = true := by
      decide +kernel
    cases ha : Artifact.load "r.json" (.octets (front ++ back)) with
    | ok a => exact ⟨a, rfl⟩
    | error e =>
      rw [ha] at hok
      cases hok
  have hback : ∃ b ∈ back, isSpace b = false := by decide +kernel
  obtain ⟨a, ha⟩ := hload
  exact ⟨⟨a, ha⟩, hback, half_written ha hback⟩

end ResultStore
end LoadBench

import LoadBench.Proofs.Process.Effects
import LoadBench.Proofs.Text.LowerCase

/-!
Which processes a supervisor finds by the name it was given.

Main statement: a spelling of the name is found in every process name that contains it exactly when
its sigmas are settled. Names are put into lower case as a whole, and a sigma at the end of the
spelling may not be at the end of a word any more when the process name goes on.
-/
namespace LoadBench.Supervisor

open Text (lowerCase IsSettled)

/-- Processes of this name are never overlooked. On every table they match, and those that are
alive are seen running and are signalled by a stop. -/
def Finds (s : Supervisor) (name : String) : Prop :=
  ∀ (t : ProcessTable) (p : ProcessRow), p ∈ t.processes → p.name = name →
    s.Matches p = true ∧ (p.state = .alive →
      (s.isRunning t).1 = true ∧
        .signal p.pid ∈ (s.stopOn Machine.table.recorded (t, [])).2.2)

theorem matches_iff {s : Supervisor} {p : ProcessRow} :
    s.Matches p = true ↔ lowerCase s.name <:+: lowerCase p.name :=
  Text.occursIn_iff

theorem finds_iff {s : Supervisor} {name : String} :
    s.Finds name ↔ lowerCase s.name <:+: lowerCase name := by
  constructor
  · intro hfinds
    have hrow := hfinds { processes := [⟨0, name, .alive⟩] } _ List.mem_cons_self rfl
    exact matches_iff.1 hrow.1
  · intro hinfix t p hp hname
    have hmatches : s.Matches p = true := by
      rw [matches_iff, hname]
      exact hinfix
    refine ⟨hmatches, fun halive => ⟨?_, ?_⟩⟩
    · rw [isRunning_fst_iff]
      exact ⟨p, hp, halive, hmatches⟩
    · have hmatching : p ∈ s.matching t := List.mem_filter.2 ⟨hp, hmatches⟩
      rw [stopOn_recorded, List.nil_append]
      exact List.mem_map.2 ⟨p, hmatching, rfl⟩

/-- A spelling of the name, in any case, is found inside all process names exactly when what stands
around it never decides the form of one of its sigmas. -/
theorem finds_within_iff {s : Supervisor} {spelling : String}
    (h : lowerCase spelling = lowerCase s.name) :
    (∀ x y : String, s.Finds (x ++ spelling ++ y)) ↔ IsSettled spelling.toList := by
  rw [← Text.forall_isInfix_iff]
  constructor
  · intro hfinds x y
    have hinfix := finds_iff.1 (hfinds (String.ofList x) (String.ofList y))
    rw [← h] at hinfix
    unfold lowerCase at hinfix
    rwa [String.toList_append, String.toList_append, String.toList_ofList,
      String.toList_ofList] at hinfix
  · intro hinfix x y
    rw [finds_iff, ← h]
    unfold lowerCase
    rw [String.toList_append, String.toList_append]
    exact hinfix x.toList y.toList

/-- A sigma that a cased letter follows is small in every word, and a name without a sigma is
found everywhere. -/
theorem finds_within_capitals :
    let s : Supervisor := ⟨"σίγμα"⟩
    let spelling := "ΣΊΓΜΑ"
    lowerCase spelling = lowerCase s.name ∧ IsSettled spelling.toList ∧
      s.Finds ("ΔΙ" ++ spelling ++ "Σ.py") ∧
      ∀ x y, Finds ⟨"binary-search"⟩ (x ++ "Binary-Search" ++ y) := by
  intro s spelling
  have hlower : lowerCase spelling = lowerCase s.name := by decide +kernel
  have hsettled : IsSettled spelling.toList := by
    have hparts : spelling.toList = 'Σ' :: "ΊΓΜΑ".toList := by decide +kernel
    rw [hparts]
    exact Text.isSettled_sigma_cons (by decide +kernel) (by decide +kernel)
  have hplain : lowerCase "Binary-Search" = lowerCase "binary-search" := by decide +kernel
  have hnone : 'Σ' ∉ "Binary-Search".toList := by decide +kernel
  exact ⟨hlower, hsettled, (finds_within_iff hlower).2 hsettled "ΔΙ" "Σ.py",
    (finds_within_iff hplain).2 (Text.isSettled_of_notMem hnone)⟩

/-- A process whose name begins with the very name that is looked for, and is overlooked: there the
sigma is not the end of the word. -/
theorem overlooks_longer_word :
    let s : Supervisor := ⟨"ΟΔΟΣ"⟩
    let name := "" ++ "ΟΔΟΣ" ++ "ΗΜΑ"
    let t : ProcessTable := { processes := [⟨7, name, .alive⟩] }
    s.Matches ⟨7, name, .alive⟩ = false ∧ (s.isRunning t).1 = false ∧
      (s.stopOn Machine.table.recorded (t, [])).2.2 = [] ∧ ¬s.Finds name := by
  intro s name t
  have hoverlooked : s.Matches ⟨7, name, .alive⟩ = false := by decide +kernel
  refine ⟨hoverlooked, by decide +kernel, by decide +kernel, fun hfinds => ?_⟩
  have hrow := hfinds t _ List.mem_cons_self rfl
  rw [hoverlooked] at hrow
  cases hrow.1

end LoadBench.Supervisor

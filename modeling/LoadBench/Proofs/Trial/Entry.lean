import LoadBench.Proofs.Fallible
import LoadBench.Proofs.Text.Numbers
import LoadBench.Trial.Artifact

/-!
The entry of one port.

Main statements: a key of digits gives the entry with the number it denotes and the nine counters
that stand under it, and is refused exactly when the number is too great or a counter is missing
or no number.
-/
namespace LoadBench.Trial

open Json (Value)

/-- The number under one of the nine names: that member of a map, or the item of a list that stands
where the name stands among the nine. -/
def counter? : Value → String → Option Binary64
  | .map ms, name => (ms.lookup name).bind Value.float?
  | .list items, name =>
    if items.length ≤ counterNames.length then
      ((counterNames.zip items).lookup name).bind Value.float?
    else none
  | _, _ => none

/-- The nine counters of a record, each in its place. -/
structure Measures (v : Value) (s : PortStatistics) : Prop where
  txL1Bps : counter? v "tx_l1_bps" = some s.txL1Bps
  txL2Bps : counter? v "tx_l2_bps" = some s.txL2Bps
  txPps : counter? v "tx_pps" = some s.txPps
  rxL1Bps : counter? v "rx_l1_bps" = some s.rxL1Bps
  rxL2Bps : counter? v "rx_l2_bps" = some s.rxL2Bps
  rxPps : counter? v "rx_pps" = some s.rxPps
  latencyMin : counter? v "rx_latency_minimum" = some s.latencyMin
  latencyMax : counter? v "rx_latency_maximum" = some s.latencyMax
  latencyAvg : counter? v "rx_latency_average" = some s.latencyAvg

/-- The entry says which port the key names, and what stands under the key. -/
structure Reports (key : String) (v : Value) (s : PortStatistics) : Prop where
  port : Text.Denotes key.toList s.portId.toNat
  counters : Measures v s

/-- What is wrong with a key of digits or with what stands under it. A number that is too great
comes first. -/
inductive Offends (key : String) (v : Value) : StatisticsFault → Prop
  | portOutOfRange {n : Nat} (denotes : Text.Denotes key.toList n) (great : UInt32.size ≤ n) :
      Offends key v .portOutOfRange
  | malformed {n : Nat} (denotes : Text.Denotes key.toList n) (fits : n < UInt32.size)
      (lacks : ¬∃ s, Measures v s) : Offends key v .malformed

theorem counter?_eq (v : Value) (name : String) :
    counter? v name =
      (v.record? counterNames).bind fun field => (field name).bind Value.float? := by
  cases v with
  | list items =>
    unfold counter? Value.record?
    dsimp only
    split <;> rfl
  | _ => rfl

theorem counters?_eq_some_iff {v : Value} {xs : List Binary64} :
    counters? v = some xs ↔
      List.Forall₂ (fun name x => counter? v name = some x) counterNames xs := by
  simp only [counter?_eq]
  unfold counters?
  cases v.record? counterNames with
  | none =>
    refine iff_of_false nofun ?_
    rintro (_ | ⟨h, -⟩)
    cases h
  | some field => exact mapM_eq_some_iff

theorem counters?_bind_eq_some_iff {v : Value} {portId : UInt32} {s : PortStatistics} :
    (counters? v).bind (PortStatistics.ofCounters? portId) = some s ↔
      s.portId = portId ∧ Measures v s := by
  constructor
  · intro h
    obtain ⟨xs, hxs, hs⟩ := Option.bind_eq_some_iff.1 h
    have hall := counters?_eq_some_iff.1 hxs
    unfold PortStatistics.ofCounters? at hs
    split at hs
    · cases hs
      simp only [counterNames, List.forall₂_cons, List.forall₂_nil_left_iff, and_true] at hall
      obtain ⟨h₁, h₂, h₃, h₄, h₅, h₆, h₇, h₈, h₉⟩ := hall
      exact ⟨rfl, h₁, h₂, h₃, h₄, h₅, h₆, h₇, h₈, h₉⟩
    · cases hs
  · rintro ⟨rfl, h⟩
    have hall : counters? v = some s.counters := by
      rw [counters?_eq_some_iff]
      simp only [counterNames, PortStatistics.counters, List.forall₂_cons,
        List.forall₂_nil_left_iff, and_true]
      exact ⟨h.txL1Bps, h.txL2Bps, h.txPps, h.rxL1Bps, h.rxL2Bps, h.rxPps, h.latencyMin,
        h.latencyMax, h.latencyAvg⟩
    rw [hall]
    rfl

theorem Reports.unique {key : String} {v : Value} {s s' : PortStatistics} (h : Reports key v s)
    (h' : Reports key v s') : s = s' := by
  have hport : s.portId = s'.portId := UInt32.toNat_inj.1 (h.port.unique h'.port)
  have hs := counters?_bind_eq_some_iff.2 ⟨rfl, h.counters⟩
  have hs' := counters?_bind_eq_some_iff.2 ⟨rfl, h'.counters⟩
  rw [hport, hs'] at hs
  exact (Option.some.inj hs).symm

/-- A key of digits gives an entry when its number fits and all counters are there. -/
theorem exists_reports_iff {key : String} {v : Value} :
    (∃ s, Reports key v s) ↔
      (∃ n, Text.Denotes key.toList n ∧ n < UInt32.size) ∧ ∃ s, Measures v s := by
  constructor
  · rintro ⟨s, hport, hcounters⟩
    exact ⟨⟨_, hport, s.portId.toNat_lt⟩, s, hcounters⟩
  · rintro ⟨⟨n, hn, hfits⟩, s, hs⟩
    have hid : (UInt32.ofNat n).toNat = n := UInt32.toNat_ofNat_of_lt' hfits
    refine ⟨{ s with portId := UInt32.ofNat n }, ?_, ?_⟩
    · rw [hid]
      exact hn
    · exact ⟨hs.txL1Bps, hs.txL2Bps, hs.txPps, hs.rxL1Bps, hs.rxL2Bps, hs.rxPps, hs.latencyMin,
        hs.latencyMax, hs.latencyAvg⟩

theorem portStatistics_of_great {key : String} {n : Nat} (hn : Text.Denotes key.toList n)
    (hgreat : UInt32.size ≤ n) (v : Value) :
    portStatistics key v = .error (.badStatistics key .portOutOfRange) := by
  unfold portStatistics
  rw [Text.readUInt32?_of_denotes hn, if_neg (Nat.not_lt.2 hgreat)]

theorem portStatistics_of_fits {key : String} {n : Nat} (hn : Text.Denotes key.toList n)
    (hfits : n < UInt32.size) (v : Value) :
    portStatistics key v = ((counters? v).bind (PortStatistics.ofCounters? (UInt32.ofNat n))).elim
      (.error (.badStatistics key .malformed)) .ok := by
  unfold portStatistics
  rw [Text.readUInt32?_of_denotes hn, if_pos hfits]
  dsimp only
  cases (counters? v).bind (PortStatistics.ofCounters? (UInt32.ofNat n)) <;> rfl

theorem portStatistics_eq_ok_iff {key : String} (hkey : Text.isDigits key.toList = true)
    {v : Value} {s : PortStatistics} : portStatistics key v = .ok s ↔ Reports key v s := by
  obtain ⟨n, hn⟩ := Text.isDigits_iff_denotes.1 hkey
  by_cases hfits : n < UInt32.size
  · have hid : (UInt32.ofNat n).toNat = n := UInt32.toNat_ofNat_of_lt' hfits
    rw [portStatistics_of_fits hn hfits, elim_eq_ok_iff, counters?_bind_eq_some_iff]
    constructor
    · rintro ⟨hport, hcounters⟩
      rw [← hid, ← hport] at hn
      exact ⟨hn, hcounters⟩
    · rintro ⟨hport, hcounters⟩
      exact ⟨UInt32.toNat_inj.1 (hport.unique (hid.symm ▸ hn)), hcounters⟩
  · rw [portStatistics_of_great hn (Nat.not_lt.1 hfits)]
    refine iff_of_false nofun fun h => hfits ?_
    rw [← h.port.unique hn]
    exact s.portId.toNat_lt

/-- A refusal names the key and says what is wrong. -/
theorem portStatistics_eq_error_iff {key : String} (hkey : Text.isDigits key.toList = true)
    {v : Value} {e : ArtifactError} :
    portStatistics key v = .error e ↔
      ∃ fault, Offends key v fault ∧ e = .badStatistics key fault := by
  obtain ⟨n, hn⟩ := Text.isDigits_iff_denotes.1 hkey
  constructor
  · intro h
    by_cases hfits : n < UInt32.size
    · have hlacks : ¬∃ s, Measures v s := by
        intro hs
        obtain ⟨s, hs⟩ := exists_reports_iff.2 ⟨⟨n, hn, hfits⟩, hs⟩
        rw [(portStatistics_eq_ok_iff hkey).2 hs] at h
        cases h
      rw [portStatistics_of_fits hn hfits] at h
      cases hc : (counters? v).bind (PortStatistics.ofCounters? (UInt32.ofNat n)) with
      | none =>
        rw [hc] at h
        cases h
        exact ⟨_, .malformed hn hfits hlacks, rfl⟩
      | some s =>
        rw [hc] at h
        cases h
    · have hgreat := Nat.not_lt.1 hfits
      rw [portStatistics_of_great hn hgreat] at h
      cases h
      exact ⟨_, .portOutOfRange hn hgreat, rfl⟩
  · rintro ⟨fault, hoffends, rfl⟩
    cases hoffends with
    | portOutOfRange hn hgreat => exact portStatistics_of_great hn hgreat v
    | malformed hn hfits hlacks =>
      rw [portStatistics_of_fits hn hfits]
      cases hc : (counters? v).bind (PortStatistics.ofCounters? (UInt32.ofNat _)) with
      | none => rfl
      | some s => exact absurd ⟨s, (counters?_bind_eq_some_iff.1 hc).2⟩ hlacks

end LoadBench.Trial

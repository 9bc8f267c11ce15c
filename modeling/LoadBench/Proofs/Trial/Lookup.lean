import LoadBench.Proofs.Trial.Report

/-!
Ports in a result, and how they are found again.

Main statement: ports ascend, each of them occurs once exactly when no two keys name it, and a port
is found under the first of its keys.
-/
namespace LoadBench

open Json (Value)

namespace Trial

/-- No two keys, such as `1` and `01`, name the same port. -/
def HasUniquePorts (ms : List (String × Value)) : Prop :=
  ∀ m ∈ ms, ∀ m' ∈ ms, ∀ n, Text.Denotes m.1.toList n → Text.Denotes m'.1.toList n → m.1 = m'.1

/-- The entry of a port is that of its first key, in the order of the octets. -/
def IsFirstEntry (ms : List (String × Value)) (portId : UInt32) (s : PortStatistics) : Prop :=
  ∃ m ∈ ms, Reports m.1 m.2 s ∧ s.portId = portId ∧
    ∀ m' ∈ ms, Text.Denotes m'.1.toList portId.toNat →
      m'.1 = m.1 ∨ Utf8.encode m.1 < Utf8.encode m'.1

section
variable {ms : List (String × Value)} {rows : List (String × PortStatistics)}

/-- A key that names a port has a row, with the port. -/
theorem IsReport.exists_row (h : IsReport ms rows) (hms : Value.Ascending ms)
    {m : String × Value} (hm : m ∈ ms) {n : Nat} (hn : Text.Denotes m.1.toList n) :
    ∃ s, (m.1, s) ∈ rows ∧ Reports m.1 m.2 s ∧ s.portId.toNat = n := by
  have hkey : m.1 ∈ (ms.map Prod.fst).filter fun key => Text.isDigits key.toList :=
    List.mem_filter.2 ⟨List.mem_map_of_mem hm, Text.isDigits_iff_denotes.2 ⟨n, hn⟩⟩
  obtain ⟨row, hrow, hname⟩ := List.mem_map.1 (h.keys.mem_iff.2 hkey)
  obtain ⟨v, hv, hreports⟩ := h.entries row hrow
  have hmember : (row.1, v) = m := hms.eq_of_name hv hm hname
  subst hmember
  exact ⟨row.2, hrow, hreports, hreports.port.unique hn⟩

theorem IsReport.pairwise_le (h : IsReport ms rows) :
    (rows.map Prod.snd).Pairwise fun a b => a.portId ≤ b.portId := by
  rw [List.pairwise_map]
  refine h.ordered.imp ?_
  rintro a b (hlt | ⟨heq, -⟩)
  · exact UInt32.le_of_lt hlt
  · exact heq ▸ UInt32.le_refl _

/-- Two rows of one port come from two keys. -/
theorem IsReport.pairwise_lt_iff (h : IsReport ms rows) (hms : Value.Ascending ms) :
    ((rows.map Prod.snd).Pairwise fun a b => a.portId < b.portId) ↔ HasUniquePorts ms := by
  rw [List.pairwise_map]
  constructor
  · intro hstrict m hm m' hm' n hn hn'
    obtain ⟨s, hs, -, hport⟩ := h.exists_row hms hm hn
    obtain ⟨s', hs', -, hport'⟩ := h.exists_row hms hm' hn'
    have hsame : s.portId = s'.portId := UInt32.toNat_inj.1 (hport.trans hport'.symm)
    by_contra hne
    have hapart : s.portId ≠ s'.portId := by
      have hsymm : Std.Symm fun a b : String × PortStatistics => a.2.portId ≠ b.2.portId :=
        ⟨fun _ _ => Ne.symm⟩
      refine (hstrict.imp fun hlt => UInt32.ne_of_lt hlt).forall hs hs' ?_
      exact fun heq => hne (Prod.mk.inj heq).1
    exact hapart hsame
  · intro hunique
    refine h.ordered.imp_of_mem fun {a b} ha hb hbefore => ?_
    rcases hbefore with hlt | ⟨heq, hkeys⟩
    · exact hlt
    · obtain ⟨v, hv, hreports⟩ := h.entries a ha
      obtain ⟨w, hw, hreports'⟩ := h.entries b hb
      have hname := hunique _ hv _ hw _ hreports.port (heq ▸ hreports'.port)
      rw [hname] at hkeys
      exact absurd hkeys (List.lt_irrefl _)

/-- The row that is found first has the first key of its port. -/
theorem IsReport.first_of_find? (h : IsReport ms rows) {portId : UInt32}
    {row row' : String × PortStatistics}
    (hfind : rows.find? (fun row => row.2.portId == portId) = some row) (hrow' : row' ∈ rows)
    (hport : row'.2.portId = portId) : row' = row ∨ Utf8.encode row.1 < Utf8.encode row'.1 := by
  obtain ⟨hfound, before, after, rfl, hbefore⟩ := List.find?_eq_some_iff_append.1 hfind
  have hordered := h.ordered
  rw [List.pairwise_append, List.pairwise_cons] at hordered
  rcases List.mem_append.1 hrow' with hmem | hmem
  · have hnot := hbefore row' hmem
    simp [hport] at hnot
  · rcases List.mem_cons.1 hmem with rfl | hmem
    · exact .inl rfl
    · rcases hordered.2.1.1 row' hmem with hlt | ⟨-, hkeys⟩
      · rw [hport, ← eq_of_beq hfound] at hlt
        exact absurd hlt (UInt32.lt_irrefl _)
      · exact .inr hkeys

theorem IsReport.find?_eq_some_iff (h : IsReport ms rows) (hms : Value.Ascending ms)
    {portId : UInt32} {s : PortStatistics} :
    (rows.map Prod.snd).find? (fun s => s.portId == portId) = some s ↔
      IsFirstEntry ms portId s := by
  have hmap : (rows.map Prod.snd).find? (fun s => s.portId == portId) =
      (rows.find? fun row => row.2.portId == portId).map Prod.snd := List.find?_map
  rw [hmap, Option.map_eq_some_iff]
  constructor
  · rintro ⟨row, hfind, rfl⟩
    have hport : row.2.portId = portId := by simpa using List.find?_some hfind
    obtain ⟨v, hv, hreports⟩ := h.entries row (List.mem_of_find?_eq_some hfind)
    refine ⟨(row.1, v), hv, hreports, hport, fun m' hm' hn => ?_⟩
    obtain ⟨s', hs', -, hid⟩ := h.exists_row hms hm' hn
    rcases h.first_of_find? hfind hs' (UInt32.toNat_inj.1 hid) with rfl | hlt
    · exact .inl rfl
    · exact .inr hlt
  · rintro ⟨m, hm, hreports, rfl, hfirst⟩
    obtain ⟨s', hs', hreports', -⟩ := h.exists_row hms hm hreports.port
    obtain rfl := hreports.unique hreports'
    cases hfind : rows.find? fun row => row.2.portId == s.portId with
    | none => exact absurd (List.find?_eq_none.1 hfind _ hs') (by simp)
    | some row =>
      rcases h.first_of_find? hfind hs' rfl with heq | hbefore
      · exact ⟨row, rfl, congrArg Prod.snd heq.symm⟩
      · have hport : row.2.portId = s.portId := by simpa using List.find?_some hfind
        obtain ⟨v, hv, hrow⟩ := h.entries row (List.mem_of_find?_eq_some hfind)
        rcases hfirst _ hv (hport ▸ hrow.port) with hname | hafter
        · rw [hname] at hbefore
          exact absurd hbefore (List.lt_irrefl _)
        · exact absurd hbefore (List.lt_asymm hafter)

end
end Trial

namespace TrialResult

/-- Where every port occurs once, each entry is found under its port. -/
theorem port?_of_strictly_ascending {r : TrialResult}
    (h : r.stats.Pairwise fun a b => a.portId < b.portId) {s : PortStatistics} (hs : s ∈ r.stats) :
    r.port? s.portId = some s := by
  obtain ⟨before, after, hparts⟩ := List.append_of_mem hs
  rw [hparts, List.pairwise_append] at h
  refine List.find?_eq_some_iff_append.2 ⟨beq_self_eq_true _, before, after, hparts, ?_⟩
  intro a ha
  have hlt := h.2.2 a ha s (by simp)
  simpa using UInt32.ne_of_lt hlt

end TrialResult

namespace ResultStore

/-- Ports ascend in a result. None occurs twice exactly when no two keys of the latest trial's
statistics name the same port, and then each entry is found under its port. A port is looked up
under the first of its keys. -/
theorem strictly_ascending_iff {s : ResultStore} {r : TrialResult} (h : s.result = .ok r) :
    ∃ t ms, s.latestTrial = .ok t ∧ t.stats = some ms ∧
      (r.stats.Pairwise fun a b => a.portId ≤ b.portId) ∧
      ((r.stats.Pairwise fun a b => a.portId < b.portId) ↔ Trial.HasUniquePorts ms) ∧
      (Trial.HasUniquePorts ms → ∀ e ∈ r.stats, r.port? e.portId = some e) ∧
      ∀ portId e, r.port? portId = some e ↔ Trial.IsFirstEntry ms portId e := by
  obtain ⟨t, ht, hextracted⟩ := bind_eq_ok h
  obtain ⟨ms, hms⟩ := Trial.exists_stats_of_toResult hextracted
  have hascending := ascending_stats ht hms
  obtain ⟨rows, hreport, hstats⟩ := Trial.isReport_of_toResult hms hascending hextracted
  have hstrict := hreport.pairwise_lt_iff hascending
  rw [← hstats] at hstrict
  refine ⟨t, ms, ht, hms, hstats ▸ hreport.pairwise_le, hstrict, ?_, ?_⟩
  · exact fun hunique e he => TrialResult.port?_of_strictly_ascending (hstrict.2 hunique) he
  · intro portId e
    unfold TrialResult.port?
    rw [hstats]
    exact hreport.find?_eq_some_iff hascending

set_option maxRecDepth 4000 in
/-- Two ports: they ascend as numbers, though the octets of their keys do not. -/
theorem strictly_ascending_iff_two_ports :
    let one : Binary64 := ⟨0x3FF0000000000000⟩
    let entry (portId : UInt32) : PortStatistics :=
      ⟨portId, one, one, one, one, one, one, one, one, one⟩
    let s : ResultStore := ⟨"r.json", .octets (Utf8.encode
      ("\x7b\"trials\":[\x7b\"stats\":\x7b\"10\":[1,1,1,1,1,1,1,1,1]," ++
        "\"2\":[1,1,1,1,1,1,1,1,1]\x7d\x7d]\x7d"))⟩
    let r : TrialResult := ⟨false, [entry 2, entry 10]⟩
    s.result = .ok r ∧ ∃ t ms, s.latestTrial = .ok t ∧ t.stats = some ms ∧
      Trial.HasUniquePorts ms ∧ (∀ e ∈ r.stats, r.port? e.portId = some e) ∧
      ∀ portId e, r.port? portId = some e ↔ Trial.IsFirstEntry ms portId e := by
  intro one entry s r
  have hr : s.result = .ok r := by
    let ones : Value := .list (List.replicate 9 (.int 1))
    have hs : s.latestTrial = .ok ⟨none, some [("10", ones), ("2", ones)]⟩ :=
      latestTrial_of_parse? rfl
    have hread : (Trial.portMembers [("10", ones), ("2", ones)]).mapM
        (fun m => Trial.portStatistics m.1 m.2) = .ok [entry 10, entry 2] := by decide +kernel
    rw [result_of_latestTrial hs, Trial.toResult_of_mapM rfl hread]
    simp [List.mergeSort, List.MergeSort.Internal.splitInTwo, entry, r, Trial.passed]
  obtain ⟨t, ms, ht, hms, -, hstrict, hfound, hfirst⟩ := strictly_ascending_iff hr
  have hunique := hstrict.1 (by decide)
  exact ⟨hr, t, ms, ht, hms, hunique, hfound hunique, hfirst⟩

set_option maxRecDepth 4000 in
/-- A port under two keys, one of them padded with a zero, occurs twice. -/
theorem not_strictly_ascending_of_padded_key :
    let s : ResultStore := ⟨"r.json", .octets (Utf8.encode
      ("\x7b\"trials\":[\x7b\"result\":\"pass\",\"stats\":\x7b" ++
        "\"1\":\x7b\"tx_l1_bps\":1,\"tx_l2_bps\":1,\"tx_pps\":1,\"rx_l1_bps\":1," ++
          "\"rx_l2_bps\":1,\"rx_pps\":1,\"rx_latency_minimum\":1," ++
          "\"rx_latency_maximum\":1,\"rx_latency_average\":1\x7d," ++
        "\"01\":\x7b\"tx_l1_bps\":1,\"tx_l2_bps\":1,\"tx_pps\":1,\"rx_l1_bps\":1," ++
          "\"rx_l2_bps\":1,\"rx_pps\":1,\"rx_latency_minimum\":1," ++
          "\"rx_latency_maximum\":1,\"rx_latency_average\":1\x7d\x7d\x7d]\x7d"))⟩
    (∃ r, s.result = .ok r ∧ r.stats.map PortStatistics.portId = [1, 1]) ∧
      ¬∀ r, s.result = .ok r → r.stats.Pairwise fun a b => a.portId < b.portId := by
  intro s
  let record : Value := .map (["rx_l1_bps", "rx_l2_bps", "rx_latency_average",
    "rx_latency_maximum", "rx_latency_minimum", "rx_pps", "tx_l1_bps", "tx_l2_bps",
    "tx_pps"].map fun name => (name, .int 1))
  let one : Binary64 := ⟨0x3FF0000000000000⟩
  let entry : PortStatistics := ⟨1, one, one, one, one, one, one, one, one, one⟩
  have hs : s.latestTrial = .ok ⟨some (.text "pass"), some [("01", record), ("1", record)]⟩ :=
    latestTrial_of_parse? rfl
  have hr : s.result = .ok ⟨true, [entry, entry]⟩ := by
    have hread : (Trial.portMembers [("01", record), ("1", record)]).mapM
        (fun m => Trial.portStatistics m.1 m.2) = .ok [entry, entry] := by decide +kernel
    rw [result_of_latestTrial hs, Trial.toResult_of_mapM rfl hread,
      List.mergeSort_of_pairwise (by decide)]
    rfl
  refine ⟨⟨_, hr, rfl⟩, fun h => ?_⟩
  exact absurd (h _ hr) (by decide)

end ResultStore
end LoadBench

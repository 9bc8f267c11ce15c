import LoadBench.Proofs.Json.Members
import LoadBench.Proofs.Text.Order
import LoadBench.Proofs.Trial.Availability
import LoadBench.Proofs.Trial.Entry

/-!
The statistics of a trial, for all its ports.

Main statement: each key of digits has one entry, the entries are in the order of the ports and
then of the keys, and the first key that gives none discards everything.
-/
namespace LoadBench

/-- Sorting keeps the order of what it cannot tell apart. -/
theorem pairwise_mergeSort_of_pairwise {α : Type} {le : α → α → Bool} {R : α → α → Prop}
    (trans : ∀ a b c, le a b = true → le b c = true → le a c = true)
    (total : ∀ a b, (le a b || le b a) = true) {xs : List α} (h : xs.Pairwise R) :
    (xs.mergeSort le).Pairwise fun a b => le a b = true ∧ (le b a = true → R a b) := by
  -- Of all that ties with one member, the sorted list has the same sublist as the list itself.
  have htied : ∀ a, (xs.mergeSort le).filter (fun b => le a b && le b a) =
      xs.filter fun b => le a b && le b a := by
    intro a
    let tied (b : α) : Bool := le a b && le b a
    have hle : (xs.filter tied).Pairwise fun b c => le b c = true := by
      refine List.pairwise_of_forall_mem_list fun b hb c hc => ?_
      have hb := (Bool.and_eq_true_iff.1 (List.mem_filter.1 hb).2).2
      have hc := (Bool.and_eq_true_iff.1 (List.mem_filter.1 hc).2).1
      exact trans b a c hb hc
    have hsub := (List.sublist_mergeSort trans total hle List.filter_sublist).filter tied
    rw [List.filter_filter, funext fun b => Bool.and_self (tied b)] at hsub
    exact (hsub.eq_of_length ((List.mergeSort_perm xs le).filter tied).length_eq.symm).symm
  rw [List.pairwise_iff_forall_sublist]
  intro a b hab
  have hle := List.pairwise_iff_forall_sublist.1 (List.pairwise_mergeSort trans total xs) hab
  refine ⟨hle, fun hge => ?_⟩
  have haa : le a a = true := by simpa using total a a
  have htie := hab.filter fun c => le a c && le c a
  rw [htied] at htie
  simp only [List.filter_cons, haa, hle, hge, Bool.and_self, if_true, List.filter_nil] at htie
  exact List.pairwise_iff_forall_sublist.1 h (htie.trans List.filter_sublist)

namespace Trial

open Json (Value)

/-- By ports, and by the octets of the keys where the port is the same. -/
def Before (a b : String × PortStatistics) : Prop :=
  a.2.portId < b.2.portId ∨ a.2.portId = b.2.portId ∧ Utf8.encode a.1 < Utf8.encode b.1

/-- The rows of a report, each an entry with the key it comes from. -/
structure IsReport (ms : List (String × Value)) (rows : List (String × PortStatistics)) : Prop where
  /-- Each key of digits has one row, and no other key has any. -/
  keys : (rows.map Prod.fst).Perm ((ms.map Prod.fst).filter fun key => Text.isDigits key.toList)
  entries : ∀ row ∈ rows, ∃ v, (row.1, v) ∈ ms ∧ Reports row.1 v row.2
  ordered : rows.Pairwise Before

/-- The first key of digits, in the order of the octets, that gives no entry. -/
structure IsFirstOffence (ms : List (String × Value)) (m : String × Value)
    (fault : StatisticsFault) : Prop where
  mem : m ∈ ms
  digits : Text.isDigits m.1.toList = true
  offends : Offends m.1 m.2 fault
  first : ∀ n ∈ ms, Text.isDigits n.1.toList = true → Utf8.encode n.1 < Utf8.encode m.1 →
    ∃ s, Reports n.1 n.2 s

/-- The members whose name is a key of digits. -/
def portMembers (ms : List (String × Value)) : List (String × Value) :=
  ms.filter fun m => Text.isDigits m.1.toList

theorem mem_portMembers {ms : List (String × Value)} {m : String × Value} :
    m ∈ portMembers ms ↔ m ∈ ms ∧ Text.isDigits m.1.toList = true :=
  List.mem_filter

theorem toResult_eq {t : Trial} {ms : List (String × Value)} (hms : t.stats = some ms) :
    t.toResult = (portMembers ms).mapM (fun m => portStatistics m.1 m.2) >>= fun ports =>
      .ok ⟨t.passed, ports.mergeSort fun a b => a.portId ≤ b.portId⟩ := by
  unfold toResult
  rw [hms]
  rfl

theorem toResult_of_mapM {t : Trial} {ms : List (String × Value)} (hms : t.stats = some ms)
    {ports : List PortStatistics}
    (h : (portMembers ms).mapM (fun m => portStatistics m.1 m.2) = .ok ports) :
    t.toResult = .ok ⟨t.passed, ports.mergeSort fun a b => a.portId ≤ b.portId⟩ := by
  rw [toResult_eq hms, h]
  rfl

theorem toResult_eq_ok_iff {t : Trial} {ms : List (String × Value)} (hms : t.stats = some ms)
    {r : TrialResult} :
    t.toResult = .ok r ↔ ∃ ports,
      List.Forall₂ (fun m s => Reports m.1 m.2 s) (portMembers ms) ports ∧
        r = ⟨t.passed, ports.mergeSort fun a b => a.portId ≤ b.portId⟩ := by
  have hdigits : ∀ m ∈ portMembers ms, Text.isDigits m.1.toList = true :=
    fun m hm => (mem_portMembers.1 hm).2
  constructor
  · intro h
    rw [toResult_eq hms] at h
    obtain ⟨ports, hports, h⟩ := bind_eq_ok h
    cases h
    refine ⟨ports, ?_, rfl⟩
    refine ((List.forall₂_and_left _ _).2 ⟨hdigits, mapM_eq_ok_iff.1 hports⟩).imp ?_
    exact fun m s h => (portStatistics_eq_ok_iff h.1).1 h.2
  · rintro ⟨ports, hports, rfl⟩
    apply toResult_of_mapM hms
    refine mapM_eq_ok_iff.2 (((List.forall₂_and_left _ _).2 ⟨hdigits, hports⟩).imp ?_)
    exact fun m s h => (portStatistics_eq_ok_iff h.1).2 h.2

theorem exists_stats_of_toResult {t : Trial} {r : TrialResult} (h : t.toResult = .ok r) :
    ∃ ms, t.stats = some ms := by
  unfold toResult at h
  split at h
  · exact ⟨_, ‹_›⟩
  · cases h

/-- Extraction succeeds when each key of digits gives an entry. -/
theorem exists_toResult_eq_ok_iff {t : Trial} {ms : List (String × Value)}
    (hms : t.stats = some ms) :
    (∃ r, t.toResult = .ok r) ↔
      ∀ m ∈ ms, Text.isDigits m.1.toList = true → ∃ s, Reports m.1 m.2 s := by
  constructor
  · rintro ⟨r, hr⟩ m hm hdigits
    obtain ⟨ports, hports, -⟩ := (toResult_eq_ok_iff hms).1 hr
    obtain ⟨s, -, hs⟩ := exists_right_of_forall₂ hports (mem_portMembers.2 ⟨hm, hdigits⟩)
    exact ⟨s, hs⟩
  · intro h
    obtain ⟨ports, hports⟩ := exists_mapM_eq_ok_iff.2 fun m hm => by
      obtain ⟨hm, hdigits⟩ := mem_portMembers.1 hm
      obtain ⟨s, hs⟩ := h m hm hdigits
      exact ⟨s, (portStatistics_eq_ok_iff hdigits).2 hs⟩
    exact ⟨_, toResult_of_mapM hms hports⟩

/-- Entries in the order of the keys, each beside its key. -/
theorem exists_rows {ms : List (String × Value)} {ports : List PortStatistics}
    (h : List.Forall₂ (fun m s => Reports m.1 m.2 s) ms ports) :
    ∃ rows : List (String × PortStatistics), rows.map Prod.fst = ms.map Prod.fst ∧
      rows.map Prod.snd = ports ∧ ∀ row ∈ rows, ∃ v, (row.1, v) ∈ ms ∧ Reports row.1 v row.2 := by
  induction h with
  | nil => exact ⟨[], rfl, rfl, by simp⟩
  | @cons m s ms ports hs _ ih =>
    obtain ⟨rows, hkeys, hports, hrows⟩ := ih
    refine ⟨(m.1, s) :: rows, by simp [hkeys], by simp [hports], ?_⟩
    intro row hrow
    rcases List.mem_cons.1 hrow with rfl | hrow
    · exact ⟨m.2, by simp, hs⟩
    · obtain ⟨v, hv, hreports⟩ := hrows row hrow
      exact ⟨v, by simp [hv], hreports⟩

/-- Rows in the order of their keys keep it where sorting by ports leaves them tied. -/
theorem pairwise_before_mergeSort {rows : List (String × PortStatistics)}
    (h : rows.Pairwise fun a b => Utf8.encode a.1 < Utf8.encode b.1) :
    (rows.mergeSort fun a b => a.2.portId ≤ b.2.portId).Pairwise Before := by
  let le (a b : String × PortStatistics) : Bool := a.2.portId ≤ b.2.portId
  have htrans : ∀ a b c, le a b = true → le b c = true → le a c = true := by
    simp only [le, decide_eq_true_eq]
    exact fun a b c => UInt32.le_trans
  have htotal : ∀ a b, (le a b || le b a) = true := by
    simp only [le, Bool.or_eq_true, decide_eq_true_eq]
    exact fun a b => UInt32.le_total _ _
  refine (pairwise_mergeSort_of_pairwise htrans htotal h).imp ?_
  rintro a b ⟨hle, hties⟩
  by_cases heq : a.2.portId = b.2.portId
  · exact .inr ⟨heq, hties (decide_eq_true (heq ▸ UInt32.le_refl _))⟩
  · exact .inl (UInt32.lt_of_le_of_ne (of_decide_eq_true hle) heq)

/-- What comes out is a report on the members in their order. -/
theorem isReport_of_toResult {t : Trial} {ms : List (String × Value)} (hms : t.stats = some ms)
    (hascending : Value.Ascending ms) {r : TrialResult} (h : t.toResult = .ok r) :
    ∃ rows, IsReport ms rows ∧ r.stats = rows.map Prod.snd := by
  obtain ⟨ports, hports, rfl⟩ := (toResult_eq_ok_iff hms).1 h
  obtain ⟨rows, hkeys, hentries, hrows⟩ := exists_rows hports
  have hdigits : rows.map Prod.fst =
      (ms.map Prod.fst).filter fun key => Text.isDigits key.toList := by
    rw [hkeys, List.filter_map]
    rfl
  have hsorted : (rows.map Prod.fst).Pairwise fun k l => Utf8.encode k < Utf8.encode l := by
    rw [hkeys, List.pairwise_map]
    exact (hascending.filter _).imp Utf8.encode_lt_encode
  rw [List.pairwise_map] at hsorted
  let sorted := rows.mergeSort fun a b => a.2.portId ≤ b.2.portId
  have hperm : sorted.Perm rows := List.mergeSort_perm ..
  refine ⟨sorted, ⟨?_, ?_, pairwise_before_mergeSort hsorted⟩, ?_⟩
  · rw [← hdigits]
    exact hperm.map Prod.fst
  · intro row hrow
    obtain ⟨v, hv, hreports⟩ := hrows row (hperm.mem_iff.1 hrow)
    exact ⟨v, (mem_portMembers.1 hv).1, hreports⟩
  · have hmap : sorted.map Prod.snd =
        (rows.map Prod.snd).mergeSort fun a b => a.portId ≤ b.portId :=
      List.map_mergeSort fun a _ b _ => rfl
    rw [hmap, hentries]

/-- A failure names the first key that gives no entry. -/
theorem isFirstOffence_of_toResult {t : Trial} {ms : List (String × Value)}
    (hms : t.stats = some ms) (hascending : Value.Ascending ms) {e : ArtifactError}
    (h : t.toResult = .error e) :
    ∃ m fault, IsFirstOffence ms m fault ∧ e = .badStatistics m.1 fault := by
  rw [toResult_eq hms] at h
  rcases bind_eq_error h with hread | ⟨ports, -, h⟩
  · obtain ⟨before, m, after, hparts, hbefore, hm⟩ := mapM_eq_error_iff.1 hread
    have hmem : m ∈ portMembers ms := by simp [hparts]
    obtain ⟨hin, hdigits⟩ := mem_portMembers.1 hmem
    obtain ⟨fault, hoffends, rfl⟩ := (portStatistics_eq_error_iff hdigits).1 hm
    refine ⟨m, fault, ⟨hin, hdigits, hoffends, ?_⟩, rfl⟩
    intro n hn hndigits hlt
    have hsorted : (portMembers ms).Pairwise fun m n => m.1 < n.1 := hascending.filter _
    have hplace : n ∈ before ++ m :: after := hparts ▸ mem_portMembers.2 ⟨hn, hndigits⟩
    rw [hparts, List.pairwise_append, List.pairwise_cons] at hsorted
    rcases List.mem_append.1 hplace with hn | hn
    · obtain ⟨s, hs⟩ := hbefore n hn
      exact ⟨s, (portStatistics_eq_ok_iff hndigits).1 hs⟩
    · rcases List.mem_cons.1 hn with rfl | hn
      · exact absurd hlt (List.lt_irrefl _)
      · exact absurd hlt (List.lt_asymm (Utf8.encode_lt_encode (hsorted.2.1.1 n hn)))
  · cases h

/-- Of the statistics only the members under keys of digits are looked at. -/
theorem toResult_eq_of_portMembers_eq {t t' : Trial} {ms ms' : List (String × Value)}
    (hms : t.stats = some ms) (hms' : t'.stats = some ms') (hresult : t'.result = t.result)
    (h : portMembers ms' = portMembers ms) : t'.toResult = t.toResult := by
  have hpassed : t'.passed = t.passed := by
    unfold passed
    rw [hresult]
  rw [toResult_eq hms, toResult_eq hms', h, hpassed]

theorem portMembers_eq_of_mem_iff {ms ms' : List (String × Value)} (hms : Value.Ascending ms)
    (hms' : Value.Ascending ms')
    (h : ∀ m, Text.isDigits m.1.toList = true → (m ∈ ms' ↔ m ∈ ms)) :
    portMembers ms' = portMembers ms := by
  have hnodup : ∀ {ms : List (String × Value)}, Value.Ascending ms → (portMembers ms).Nodup :=
    fun hms => (hms.filter _).imp fun hlt heq => hlt.ne (congrArg Prod.fst heq)
  have hperm : (portMembers ms').Perm (portMembers ms) := by
    refine (List.perm_ext_iff_of_nodup (hnodup hms') (hnodup hms)).2 fun m => ?_
    rw [mem_portMembers, mem_portMembers]
    exact and_congr_left fun hdigits => h m hdigits
  refine hperm.eq_of_pairwise ?_ (hms'.filter _) (hms.filter _)
  exact fun a b _ _ hab hba => absurd hab hba.asymm

end Trial

namespace ResultStore

open Json (Value)

/-- The members of the latest trial's statistics stand in the order of their names. -/
theorem ascending_stats {s : ResultStore} {t : Trial} (ht : s.latestTrial = .ok t)
    {ms : List (String × Value)} (hms : t.stats = some ms) : Value.Ascending ms := by
  obtain ⟨json, hjson⟩ := exists_json_latestTrial ht
  obtain ⟨u, levels, hu⟩ := Trial.exists_tree_of_stats hjson hms
  exact Json.ascending_of_value? hu

/-- Extraction is exact. For the statistics of the latest trial, whose members have distinct names
in the order of the octets: a result comes out when each key of digits denotes a number of 32 bits
and has all nine counters under it; it then has one entry for each of these keys, in the order of
the ports and then of the keys; otherwise it fails for the first key that gives no entry, and
nothing is given out. Members under other keys have no influence. -/
theorem statistics_exact {s : ResultStore} {t : Trial} {ms : List (String × Value)}
    (ht : s.latestTrial = .ok t) (hms : t.stats = some ms) :
    (ms.Pairwise fun m n => Utf8.encode m.1 < Utf8.encode n.1) ∧
    ((∃ r, s.result = .ok r) ↔ ∀ m ∈ ms, Text.isDigits m.1.toList = true →
      (∃ n, Text.Denotes m.1.toList n ∧ n < UInt32.size) ∧ ∃ c, Trial.Measures m.2 c) ∧
    (∀ r, s.result = .ok r → ∃ rows, Trial.IsReport ms rows ∧ r.stats = rows.map Prod.snd) ∧
    ((¬∃ r, s.result = .ok r) → ∃ m fault, Trial.IsFirstOffence ms m fault ∧
      s.result = .error (.badStatistics m.1 fault) ∧ s.resultOrEmpty = ⟨false, []⟩) ∧
    ∀ (s' : ResultStore) (t' : Trial) (ms' : List (String × Value)),
      s'.latestTrial = .ok t' → t'.stats = some ms' → t'.result = t.result →
      (∀ m, Text.isDigits m.1.toList = true → (m ∈ ms' ↔ m ∈ ms)) → s'.result = s.result := by
  have hascending := ascending_stats ht hms
  have hresult := result_of_latestTrial ht
  refine ⟨hascending.imp Utf8.encode_lt_encode, ?_, ?_, ?_, ?_⟩
  · rw [hresult, Trial.exists_toResult_eq_ok_iff hms]
    simp only [Trial.exists_reports_iff]
  · intro r hr
    exact Trial.isReport_of_toResult hms hascending (hresult ▸ hr)
  · intro hfails
    cases he : s.result with
    | ok r => exact absurd ⟨r, he⟩ hfails
    | error e =>
      obtain ⟨m, fault, hfirst, rfl⟩ :=
        Trial.isFirstOffence_of_toResult hms hascending (hresult ▸ he)
      refine ⟨m, fault, hfirst, rfl, ?_⟩
      unfold resultOrEmpty
      rw [he]
      rfl
  · intro s' t' ms' ht' hms' hword hmem
    rw [hresult, result_of_latestTrial ht']
    apply Trial.toResult_eq_of_portMembers_eq hms hms' hword
    exact Trial.portMembers_eq_of_mem_iff hascending (ascending_stats ht' hms') hmem

set_option maxRecDepth 2000 in
/-- Three keys of digits, two of them of one port, and a member that is no port; the same without
that member; and three keys of which two give no entry. -/
theorem statistics_exact_tied_and_refused :
    let ones : Value := .list (List.replicate 9 (.int 1))
    let twos : Value := .list (List.replicate 9 (.int 2))
    let one : Binary64 := ⟨0x3FF0000000000000⟩
    let two : Binary64 := ⟨0x4000000000000000⟩
    let entry (portId : UInt32) (x : Binary64) : PortStatistics :=
      ⟨portId, x, x, x, x, x, x, x, x, x⟩
    let s : ResultStore := ⟨"r.json", .octets (Utf8.encode
      ("\x7b\"trials\":[\x7b\"stats\":\x7b\"2\":[2,2,2,2,2,2,2,2,2],\"global\":0," ++
        "\"10\":[1,1,1,1,1,1,1,1,1],\"02\":[1,1,1,1,1,1,1,1,1]\x7d\x7d]\x7d"))⟩
    let s' : ResultStore := ⟨"r.json", .octets (Utf8.encode
      ("\x7b\"trials\":[\x7b\"stats\":\x7b\"02\":[1,1,1,1,1,1,1,1,1]," ++
        "\"10\":[1,1,1,1,1,1,1,1,1],\"2\":[2,2,2,2,2,2,2,2,2]\x7d\x7d]\x7d"))⟩
    let refused : ResultStore := ⟨"r.json", .octets (Utf8.encode
      ("\x7b\"trials\":[\x7b\"stats\":\x7b\"9\":[],\"4294967296\":null," ++
        "\"10\":[1,1,1,1,1,1,1,1,1]\x7d\x7d]\x7d"))⟩
    let ports : List (String × Value) := [("02", ones), ("10", ones), ("2", twos)]
    let offending : List (String × Value) :=
      [("10", ones), ("4294967296", .null), ("9", .list [])]
    let r : TrialResult := ⟨false, [entry 2 one, entry 2 two, entry 10 one]⟩
    s.latestTrial = .ok ⟨none, some (ports ++ [("global", .int 0)])⟩ ∧
      s'.latestTrial = .ok ⟨none, some ports⟩ ∧
      refused.latestTrial = .ok ⟨none, some offending⟩ ∧
      (∃ r, s.result = .ok r) ∧ s.result = .ok r ∧
      (∃ rows, Trial.IsReport (ports ++ [("global", .int 0)]) rows ∧
        r.stats = rows.map Prod.snd) ∧
      s'.result = s.result ∧
      (¬∃ r, refused.result = .ok r) ∧
      ∃ m fault, Trial.IsFirstOffence offending m fault ∧
        refused.result = .error (.badStatistics m.1 fault) ∧
        refused.resultOrEmpty = ⟨false, []⟩ := by
  intro ones twos one two entry s s' refused ports offending r
  have hs : s.latestTrial = .ok ⟨none, some (ports ++ [("global", .int 0)])⟩ :=
    latestTrial_of_parse? rfl
  have hs' : s'.latestTrial = .ok ⟨none, some ports⟩ := latestTrial_of_parse? rfl
  have hrefused : refused.latestTrial = .ok ⟨none, some offending⟩ := latestTrial_of_parse? rfl
  have hr : s.result = .ok r := by
    have hread : (Trial.portMembers (ports ++ [("global", .int 0)])).mapM
        (fun m => Trial.portStatistics m.1 m.2) =
          .ok [entry 2 one, entry 10 one, entry 2 two] := by decide +kernel
    rw [result_of_latestTrial hs, Trial.toResult_of_mapM rfl hread]
    simp [List.mergeSort, List.MergeSort.Internal.splitInTwo, entry, r, Trial.passed]
  have hfails : ¬∃ r, refused.result = .ok r := by
    have hfirst : refused.result = .error (.badStatistics "4294967296" .portOutOfRange) := by
      decide +kernel
    rintro ⟨r, hok⟩
    cases hfirst.symm.trans hok
  have hsame : ∀ m : String × Value, Text.isDigits m.1.toList = true →
      (m ∈ ports ↔ m ∈ ports ++ [("global", .int 0)]) := by
    intro m hdigits
    have hother : m ≠ ("global", .int 0) := by
      rintro rfl
      exact absurd hdigits (by decide)
    simp [hother]
  obtain ⟨-, -, hreport, -, hforeign⟩ := statistics_exact hs rfl
  obtain ⟨-, -, -, hoffence, -⟩ := statistics_exact hrefused rfl
  exact ⟨hs, hs', hrefused, ⟨r, hr⟩, hr, hreport r hr, hforeign s' _ ports hs' rfl rfl hsame,
    hfails, hoffence hfails⟩

end ResultStore
end LoadBench

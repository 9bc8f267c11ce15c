import LoadBench.Proofs.Control.Message
import LoadBench.Proofs.Fallible

/-! The codec of messages. A message with finite numbers is read back from its text, one with any
other number is refused, and whatever is accepted has finite numbers. -/
namespace LoadBench

open Json (Tree)

namespace Json.Tree

theorem isFinite_of_float? {t : Tree} {x : Binary64} (h : t.float? = some x) :
    x.isFinite = true := by
  cases t with
  | number n =>
    simp only [float?] at h
    split_ifs at h with hn
    have hx : n.toBinary64 = x := Option.some.inj h
    rwa [← hx]
  | _ => cases h

/-- A number that is not finite is written as `null`, and that is not read as a number. -/
theorem isFinite_of_float?_ofFloat {x y : Binary64} (h : (ofFloat x).float? = some y) :
    x.isFinite = true := by
  by_contra hx
  have hnull : ofFloat x = .null := if_neg hx
  rw [hnull] at h
  cases h

/-- A field with a default is finite if the default is. -/
theorem isFinite_of_elim {field : Option Tree} {d x : Binary64} (hd : d.isFinite = true)
    (h : field.elim (some d) float? = some x) : x.isFinite = true := by
  cases field with
  | none =>
    have hx : d = x := Option.some.inj h
    rwa [← hx]
  | some t => exact isFinite_of_float? h

theorem finite_of_list? {α : Type} {read : Tree → Option α} {Finite : α → Prop} {t : Tree}
    {xs : List α} (hread : ∀ t x, read t = some x → Finite x) (h : t.list? read = some xs) :
    ∀ x ∈ xs, Finite x := by
  intro x hx
  cases t with
  | array items =>
    obtain ⟨item, -, hitem⟩ := mem_of_mapM h hx
    exact hread item x hitem
  | _ => cases h

end Json.Tree

/-! ### What is accepted has finite numbers -/

theorem Parameters.finite_of_ofJson? {enclosing : Nat} {heldBack : Bool} {t : Tree}
    {p : Parameters} (h : ofJson? enclosing heldBack t = some p) : p.Finite := by
  have hloss : ({} : Parameters).maxLoss.isFinite = true := by decide +kernel
  have hgranularity : ({} : Parameters).granularity.isFinite = true := by decide +kernel
  unfold ofJson? at h
  obtain ⟨field, -, h⟩ := Option.bind_eq_some_iff.1 h
  obtain ⟨devicePairs, -, h⟩ := Option.bind_eq_some_iff.1 h
  obtain ⟨searchRuntime, -, h⟩ := Option.bind_eq_some_iff.1 h
  obtain ⟨validationRuntime, -, h⟩ := Option.bind_eq_some_iff.1 h
  obtain ⟨numFlows, -, h⟩ := Option.bind_eq_some_iff.1 h
  obtain ⟨frameSize, -, h⟩ := Option.bind_eq_some_iff.1 h
  obtain ⟨maxLoss, hmaxLoss, h⟩ := Option.bind_eq_some_iff.1 h
  obtain ⟨sniffRuntime, -, h⟩ := Option.bind_eq_some_iff.1 h
  obtain ⟨granularity, hgranular, h⟩ := Option.bind_eq_some_iff.1 h
  obtain ⟨destination, -, h⟩ := Option.bind_eq_some_iff.1 h
  cases h
  constructor
  · exact Tree.isFinite_of_elim hloss hmaxLoss
  · exact Tree.isFinite_of_elim hgranularity hgranular

theorem PortStatistics.finite_of_ofJson? {t : Tree} {s : PortStatistics}
    (h : ofJson? t = some s) : s.Finite := by
  unfold ofJson? at h
  obtain ⟨field, -, h⟩ := Option.bind_eq_some_iff.1 h
  obtain ⟨portText, -, h⟩ := Option.bind_eq_some_iff.1 h
  obtain ⟨portId, -, h⟩ := Option.bind_eq_some_iff.1 h
  obtain ⟨xs, hxs, h⟩ := Option.bind_eq_some_iff.1 h
  have hcounters : s.counters = xs := by
    unfold ofCounters? at h
    split at h
    · cases h
      rfl
    · cases h
  intro x hx
  rw [hcounters] at hx
  obtain ⟨name, -, hname⟩ := mem_of_mapM hxs hx
  obtain ⟨t, -, ht⟩ := Option.bind_eq_some_iff.1 hname
  exact Tree.isFinite_of_float? ht

theorem TrialResult.finite_of_ofJson? {t : Tree} {r : TrialResult} (h : ofJson? t = some r) :
    r.Finite := by
  unfold ofJson? at h
  obtain ⟨field, -, h⟩ := Option.bind_eq_some_iff.1 h
  obtain ⟨passTree, -, h⟩ := Option.bind_eq_some_iff.1 h
  obtain ⟨pass, -, h⟩ := Option.bind_eq_some_iff.1 h
  obtain ⟨statsTree, -, h⟩ := Option.bind_eq_some_iff.1 h
  obtain ⟨stats, hstats, h⟩ := Option.bind_eq_some_iff.1 h
  cases h
  exact Tree.finite_of_list? (fun _ _ => PortStatistics.finite_of_ofJson?) hstats

/-! ### What is not finite is refused -/

theorem Parameters.finite_of_accepted {p q : Parameters} (h : ofJson? 1 false p.json = some q) :
    p.Finite := by
  unfold ofJson? json at h
  rw [Tree.record?_record (by simp) (by simp [fieldNames])] at h
  simp only [List.lookup_cons, Option.bind_eq_bind, Option.bind_some] at h
  obtain ⟨devicePairs, -, h⟩ := Option.bind_eq_some_iff.1 h
  obtain ⟨searchRuntime, -, h⟩ := Option.bind_eq_some_iff.1 h
  obtain ⟨validationRuntime, -, h⟩ := Option.bind_eq_some_iff.1 h
  obtain ⟨numFlows, -, h⟩ := Option.bind_eq_some_iff.1 h
  obtain ⟨frameSize, -, h⟩ := Option.bind_eq_some_iff.1 h
  obtain ⟨maxLoss, hloss, h⟩ := Option.bind_eq_some_iff.1 h
  obtain ⟨sniffRuntime, -, h⟩ := Option.bind_eq_some_iff.1 h
  obtain ⟨granularity, hgranularity, h⟩ := Option.bind_eq_some_iff.1 h
  constructor
  · exact Tree.isFinite_of_float?_ofFloat hloss
  · exact Tree.isFinite_of_float?_ofFloat hgranularity

theorem PortStatistics.finite_of_accepted {s u : PortStatistics} (h : ofJson? s.json = some u) :
    s.Finite := by
  unfold ofJson? at h
  rw [s.record?_json] at h
  simp only [Option.bind_eq_bind, Option.bind_some] at h
  obtain ⟨portText, -, h⟩ := Option.bind_eq_some_iff.1 h
  obtain ⟨portId, -, h⟩ := Option.bind_eq_some_iff.1 h
  obtain ⟨xs, hxs, h⟩ := Option.bind_eq_some_iff.1 h
  intro x hx
  have hpairs : (counterNames.zip s.counters).map Prod.snd = s.counters :=
    List.map_snd_zip (by simp [counterNames, counters])
  rw [← hpairs] at hx
  obtain ⟨p, hp, rfl⟩ := List.mem_map.1 hx
  obtain ⟨y, hy⟩ := exists_of_mapM hxs (List.of_mem_zip hp).1
  rw [s.lookup_counter hp, Option.bind_some] at hy
  exact Tree.isFinite_of_float?_ofFloat hy

theorem TrialResult.finite_of_accepted {r u : TrialResult} (h : ofJson? r.json = some u) :
    r.Finite := by
  unfold ofJson? json at h
  rw [Tree.record?_record (by simp) (by simp)] at h
  simp only [List.lookup_cons, Option.bind_eq_bind, Option.bind_some] at h
  obtain ⟨passTree, -, h⟩ := Option.bind_eq_some_iff.1 h
  obtain ⟨pass, -, h⟩ := Option.bind_eq_some_iff.1 h
  obtain ⟨statsTree, hfield, h⟩ := Option.bind_eq_some_iff.1 h
  obtain ⟨stats, hstats, h⟩ := Option.bind_eq_some_iff.1 h
  cases hfield
  intro s hs
  obtain ⟨v, hv⟩ := exists_of_mapM hstats (List.mem_map_of_mem hs)
  exact PortStatistics.finite_of_accepted hv

theorem Request.finite_of_ofJson? {t : Tree} {r : Request} (h : ofJson? t = some r) :
    r.Finite := by
  unfold ofJson? at h
  obtain ⟨message, -, h⟩ := Option.bind_eq_some_iff.1 h
  obtain ⟨params, -, h⟩ := Option.bind_eq_some_iff.1 h
  split_ifs at h with hstart
  · obtain ⟨p, hp, rfl⟩ := Option.map_eq_some_iff.1 h
    exact Parameters.finite_of_ofJson? hp
  · obtain ⟨q, hq, h⟩ := Option.bind_eq_some_iff.1 h
    obtain ⟨fields, -, h⟩ := Option.bind_eq_some_iff.1 h
    cases h
    have hplain : r ∈ plain := List.mem_of_find?_eq_some hq
    simp only [plain, List.mem_cons, List.not_mem_nil, or_false] at hplain
    rcases hplain with rfl | rfl | rfl | rfl | rfl | rfl <;> trivial

theorem Request.finite_of_accepted {r u : Request} (h : ofJson? r.json = some u) : r.Finite := by
  cases r with
  | start p =>
    unfold ofJson? json at h
    rw [Tree.tagged?_record] at h
    simp only [method, Option.bind_eq_bind, Option.bind_some, if_true] at h
    obtain ⟨q, hq, -⟩ := Option.map_eq_some_iff.1 h
    exact Parameters.finite_of_accepted hq
  | _ => trivial

theorem Response.finite_of_ofBody? {kind : String} {body : Tree} {r : Response}
    (h : ofBody? kind body = some r) : r.Finite := by
  unfold ofBody? at h
  split at h
  · obtain ⟨ok, -, rfl⟩ := Option.map_eq_some_iff.1 h
    trivial
  · obtain ⟨b, -, rfl⟩ := Option.map_eq_some_iff.1 h
    trivial
  · obtain ⟨b, -, rfl⟩ := Option.map_eq_some_iff.1 h
    trivial
  · obtain ⟨field, -, h⟩ := Option.bind_eq_some_iff.1 h
    obtain ⟨runningTree, -, h⟩ := Option.bind_eq_some_iff.1 h
    obtain ⟨running, -, h⟩ := Option.bind_eq_some_iff.1 h
    obtain ⟨availableTree, -, h⟩ := Option.bind_eq_some_iff.1 h
    obtain ⟨available, -, h⟩ := Option.bind_eq_some_iff.1 h
    cases h
    trivial
  · obtain ⟨result, hresult, rfl⟩ := Option.map_eq_some_iff.1 h
    exact TrialResult.finite_of_ofJson? hresult
  · split_ifs at h
    cases h
    trivial
  · obtain ⟨macs, -, rfl⟩ := Option.map_eq_some_iff.1 h
    trivial
  · split at h
    · obtain ⟨message, -, rfl⟩ := Option.map_eq_some_iff.1 h
      trivial
    · cases h
  · cases h

theorem Response.finite_of_ofJson? {t : Tree} {r : Response} (h : ofJson? t = some r) :
    r.Finite := by
  unfold ofJson? at h
  obtain ⟨message, -, h⟩ := Option.bind_eq_some_iff.1 h
  split at h
  · exact finite_of_ofBody? h
  · split_ifs at h
    cases h
    trivial

theorem Response.finite_of_accepted {r u : Response} (h : ofJson? r.json = some u) :
    r.Finite := by
  cases r with
  | trialResult r =>
    rw [ofJson?_of_body rfl] at h
    obtain ⟨result, hresult, -⟩ := Option.map_eq_some_iff.1 h
    exact TrialResult.finite_of_accepted hresult
  | _ => trivial

/-! ### Both kinds of messages -/

/-- What a protocol of lines asks of the texts of its messages. -/
structure IsLineCodec {α : Type} (json : α → Tree) (parse? : List UInt8 → Option α)
    (Finite : α → Prop) : Prop where
  read_back : ∀ m, Finite m → parse? (json m).print = some m ∧ parse? (lineOf (json m)) = some m
  no_newline : ∀ m, '\n'.toUInt8 ∉ (json m).print
  refused : ∀ m, ¬Finite m → parse? (json m).print = none
  accepted : ∀ text m, parse? text = some m → Finite m ∧ parse? (json m).print = some m

theorem isLineCodec {α : Type} {json : α → Tree} {ofJson? : Tree → Option α} {Finite : α → Prop}
    (hwritten : ∀ m, (json m).Written) (hread : ∀ m, Finite m → ofJson? (json m) = some m)
    (hfinite : ∀ t m, ofJson? t = some m → Finite m)
    (haccepted : ∀ m u, ofJson? (json m) = some u → Finite m) :
    IsLineCodec json (fun text => (Tree.parse? text).bind ofJson?) Finite := by
  have htree : ∀ m, (Tree.parse? (json m).print).bind ofJson? = ofJson? (json m) := by
    intro m
    rw [Tree.parse?_print (hwritten m), Option.bind_some]
  constructor
  case read_back =>
    intro m hm
    constructor
    · exact (htree m).trans (hread m hm)
    · exact (parse?_lineOf (hwritten m)).trans (hread m hm)
  case no_newline => exact fun m => Json.newline_notMem_print (json m)
  case refused =>
    intro m hm
    apply (htree m).trans
    apply Option.eq_none_iff_forall_ne_some.2
    exact fun u hu => hm (haccepted m u hu)
  case accepted =>
    intro text m h
    obtain ⟨t, -, ht⟩ := Option.bind_eq_some_iff.1 h
    have hm := hfinite t m ht
    exact ⟨hm, (htree m).trans (hread m hm)⟩

/-- Requests and responses are read back from their lines, and nothing that is not finite passes in
either direction. -/
theorem message_codec :
    IsLineCodec Request.json Request.parse? Request.Finite ∧
      IsLineCodec Response.json Response.parse? Response.Finite := by
  constructor
  · exact isLineCodec Request.written_json (fun _ => Request.ofJson?_json)
      (fun _ _ => Request.finite_of_ofJson?) fun _ _ => Request.finite_of_accepted
  · exact isLineCodec Response.written_json (fun _ => Response.ofJson?_json)
      (fun _ _ => Response.finite_of_ofJson?) fun _ _ => Response.finite_of_accepted

/-- A start request with a loss of a tenth of a percent, and one with no number for it. -/
theorem message_codec_start :
    let request : Request :=
      .start { maxLoss := .ofDecimal false 1 (-1), destination := .explicit ["a\n\"b"] }
    let broken : Request := .start { maxLoss := .nan }
    request.Finite ∧ Request.parse? request.json.print = some request ∧
      Request.parse? (lineOf request.json) = some request ∧
      '\n'.toUInt8 ∉ request.json.print ∧
      ¬broken.Finite ∧ Request.parse? broken.json.print = none := by
  intro request broken
  have hfinite : request.Finite := ⟨by decide +kernel, by decide +kernel⟩
  have hbroken : ¬broken.Finite := fun h => absurd h.1 (by decide +kernel)
  obtain ⟨⟨hread, hnewline, hrefused, -⟩, -⟩ := message_codec
  obtain ⟨hprint, hline⟩ := hread request hfinite
  exact ⟨hfinite, hprint, hline, hnewline request, hbroken, hrefused broken hbroken⟩

end LoadBench

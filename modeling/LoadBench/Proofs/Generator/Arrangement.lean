import LoadBench.Generator.Parameters
import LoadBench.Proofs.Json.Shuffled

/-!
Parameters whose members stand in any order, in the destination too, and are left out where they
have their defaults. Every such arrangement is read as the parameters.
-/
namespace LoadBench

open Json (Tree)

namespace Destination

def members (d : Destination) : List (String × Tree) :=
  match d with
  | ranged => [("mode", .ofText "ranged")]
  | explicit macs => [("mode", .ofText "explicit"), ("macs", .array (macs.map .ofText))]

theorem json_eq_members (d : Destination) : d.json = Tree.record d.members := by
  cases d <;> rfl

/-- The members of a destination in any order. -/
inductive IsArrangement (d : Destination) : Tree → Prop
  | intro {ms : List (String × Tree)} (order : ms.Perm d.members) : IsArrangement d (.record ms)

theorem isArrangement_json (d : Destination) : d.IsArrangement d.json := by
  rw [json_eq_members]
  exact .intro (.refl _)

section
variable {d : Destination} {t : Tree}

theorem IsArrangement.isSome_value? (h : d.IsArrangement t) (levels : Nat) :
    (t.value? (levels + 2)).isSome = true := by
  obtain ⟨order⟩ := h
  apply Tree.isSome_value?_record
  intro m hm
  have hmem := order.mem_iff.1 hm
  cases d with
  | ranged =>
    rw [List.mem_singleton.1 hmem, Tree.value?_ofText]
    rfl
  | explicit macs =>
    rcases List.mem_pair.1 hmem with rfl | rfl
    · rw [Tree.value?_ofText]
      rfl
    · rw [Tree.value?_texts (Nat.succ_pos levels)]
      rfl

theorem IsArrangement.written (h : d.IsArrangement t) : t.Written := by
  obtain ⟨order⟩ := h
  apply Tree.written_record
  intro m hm
  have hmem := order.mem_iff.1 hm
  cases d with
  | ranged =>
    rw [List.mem_singleton.1 hmem]
    exact Tree.written_ofText _
  | explicit macs =>
    rcases List.mem_pair.1 hmem with rfl | rfl
    · exact Tree.written_ofText _
    · exact Tree.written_map macs Tree.written_ofText

/-- The mode is found wherever it stands, held back or not. -/
theorem IsArrangement.ofJson? (h : d.IsArrangement t) {enclosing : Nat}
    (henclosing : enclosing + 2 ≤ Json.maxLevels) (heldBack : Bool) :
    Destination.ofJson? enclosing heldBack t = some d := by
  have hlevels : Json.maxLevels - enclosing = Json.maxLevels - enclosing - 2 + 2 := by omega
  obtain ⟨v, hv⟩ := Option.isSome_iff_exists.1
    (h.isSome_value? (Json.maxLevels - enclosing - 2))
  rw [← hlevels] at hv
  obtain ⟨order⟩ := h
  unfold Destination.ofJson?
  rw [hv, Json.record_eq]
  dsimp only
  rw [Tree.members?_map]
  cases d with
  | ranged =>
    have hmode := Tree.filter_eq_singleton (p := fun m => m.1 == "mode") order rfl
    simp [hmode, isExplicit?, ofParts?]
  | explicit macs =>
    have hmode := Tree.filter_eq_singleton (p := fun m => m.1 == "mode") order rfl
    have hmacs := Tree.filter_eq_singleton (p := fun m => m.1 == "macs") order rfl
    have hlist : Tree.list? Tree.text? (.array (macs.map .ofText)) = some macs :=
      Tree.list?_array fun s _ => Tree.text?_ofText s
    simp [hmode, hmacs, isExplicit?, ofParts?, hlist]

end

end Destination

namespace Parameters

/-- Neither percentage is an infinity or not a number. -/
def Finite (p : Parameters) : Prop := p.maxLoss.isFinite = true ∧ p.granularity.isFinite = true

def members (p : Parameters) (destination : Tree) : List (String × Tree) :=
  [("device_pairs", .ofText p.devicePairs), ("search_runtime", .ofNat p.searchRuntime.toNat),
    ("validation_runtime", .ofNat p.validationRuntime.toNat),
    ("num_flows", .ofNat p.numFlows.toNat), ("frame_size", .ofNat p.frameSize.toNat),
    ("max_loss_pct", .ofFloat p.maxLoss), ("sniff_runtime", .ofNat p.sniffRuntime.toNat),
    ("search_granularity", .ofFloat p.granularity), ("destination", destination)]

theorem json_eq_members (p : Parameters) : p.json = Tree.record (p.members p.destination.json) :=
  rfl

theorem map_fst_members (p : Parameters) (destination : Tree) :
    (p.members destination).map Prod.fst = fieldNames := rfl

/-- The field of a name has its default. -/
def HasDefault (p : Parameters) (name : String) : Prop :=
  let d : Parameters := {}
  match name with
  | "device_pairs" => p.devicePairs = d.devicePairs
  | "search_runtime" => p.searchRuntime = d.searchRuntime
  | "validation_runtime" => p.validationRuntime = d.validationRuntime
  | "num_flows" => p.numFlows = d.numFlows
  | "frame_size" => p.frameSize = d.frameSize
  | "max_loss_pct" => p.maxLoss = d.maxLoss
  | "sniff_runtime" => p.sniffRuntime = d.sniffRuntime
  | "search_granularity" => p.granularity = d.granularity
  | "destination" => p.destination = d.destination
  | _ => False

/-- The members of parameters in any order, without some that have their defaults. -/
inductive IsArrangement (p : Parameters) : Tree → Prop
  | intro {destination : Tree} {kept dropped : List (String × Tree)}
      (inner : p.destination.IsArrangement destination)
      (order : (kept ++ dropped).Perm (p.members destination))
      (defaults : ∀ m ∈ dropped, p.HasDefault m.1) : IsArrangement p (.record kept)

section
variable {p : Parameters} {t : Tree}

theorem isSome_value?_of_mem_members (hf : p.Finite) {destination : Tree}
    (h : p.destination.IsArrangement destination) (levels : Nat) :
    ∀ m ∈ p.members destination, (m.2.value? (levels + 2)).isSome = true := by
  simp [members, Tree.value?_ofText, Tree.value?_ofNat, Tree.isSome_value?_ofFloat, hf.1,
    hf.2, h.isSome_value?]

theorem IsArrangement.isSome_value? (h : p.IsArrangement t) (hf : p.Finite) (levels : Nat) :
    (t.value? (levels + 3)).isSome = true := by
  obtain ⟨inner, order, -⟩ := h
  apply Tree.isSome_value?_record
  intro m hm
  exact isSome_value?_of_mem_members hf inner levels m (order.subset (List.mem_append_left _ hm))

theorem IsArrangement.written (h : p.IsArrangement t) : t.Written := by
  obtain @⟨destination, kept, dropped, inner, order, -⟩ := h
  have hmembers : ∀ m ∈ p.members destination, m.2.Written := by
    simp [members, Tree.written_ofText, Tree.written_ofNat, Tree.written_ofFloat, inner.written]
  exact Tree.written_record fun m hm => hmembers m (order.subset (List.mem_append_left _ hm))

theorem IsArrangement.ofJson? (h : p.IsArrangement t) (hf : p.Finite) (heldBack : Bool) :
    Parameters.ofJson? 1 heldBack t = some p := by
  obtain @⟨destination, kept, dropped, inner, order, defaults⟩ := h
  have hnames : ((p.members destination).map Prod.fst).Nodup := by
    rw [map_fst_members]
    decide
  have hrecord := Tree.record?_kept order hnames
  rw [map_fst_members] at hrecord
  have field : ∀ {α : Type} {name : String} {content : Tree} {read : Tree → Option α} {v d : α},
      (name, content) ∈ p.members destination → read content = some v →
        (p.HasDefault name → v = d) → (kept.lookup name).elim (some d) read = some v :=
    fun hmem hread hd => Tree.elim_lookup_kept order hnames hmem hread fun hm =>
      hd (defaults _ hm)
  unfold Parameters.ofJson?
  rw [hrecord]
  simp only [Option.bind_eq_bind, Option.bind_some]
  rw [field (by simp [members]) (Tree.text?_ofText p.devicePairs) id,
    field (by simp [members]) (Tree.uint32?_ofNat p.searchRuntime) id,
    field (by simp [members]) (Tree.uint32?_ofNat p.validationRuntime) id,
    field (by simp [members]) (Tree.uint32?_ofNat p.numFlows) id,
    field (by simp [members]) (Tree.uint32?_ofNat p.frameSize) id,
    field (by simp [members]) (Tree.float?_ofFloat hf.1) id,
    field (by simp [members]) (Tree.uint32?_ofNat p.sniffRuntime) id,
    field (by simp [members]) (Tree.float?_ofFloat hf.2) id,
    field (by simp [members]) (inner.ofJson? (by decide) heldBack) id]
  rfl

end

theorem isArrangement_json (p : Parameters) : p.IsArrangement p.json := by
  have order : (p.members p.destination.json ++ []).Perm (p.members p.destination.json) :=
    .of_eq (List.append_nil _)
  rw [json_eq_members]
  exact .intro p.destination.isArrangement_json order fun m hm => absurd hm List.not_mem_nil

end Parameters

end LoadBench

import LoadBench.Flow.Setting
import LoadBench.Proofs.Requirements

/-!
Plans of flows, and the flows that are built from them.

Main statements: a plan has in each slot the last value that was set, and a flow is built exactly
when the frame holds the headers and no range is too long; the flow then lists the addresses of its
own ranges.
-/
namespace LoadBench

open Requirement (FirstError)

namespace FlowPlan

variable {p q : FlowPlan} {settings : List Setting} {slot : Slot}

def range (p : FlowPlan) : (field : FlowField) → AddressRange field.kind
  | .srcMac => p.srcMac
  | .dstMac => p.dstMac
  | .srcIp => p.srcIp
  | .dstIp => p.dstIp
  | .srcPort => p.srcPort
  | .dstPort => p.dstPort

def get (p : FlowPlan) : (slot : Slot) → slot.Value
  | .range field => p.range field
  | .frameSize => p.frameSize
  | .tag => p.tag

/-- A plan is its interface and its slots. -/
theorem ext_get (hinterface : p.interface = q.interface) (h : ∀ slot, p.get slot = q.get slot) :
    p = q := by
  have hrange : ∀ field, p.range field = q.range field := fun field => h (.range field)
  have hsize : p.frameSize = q.frameSize := h .frameSize
  have htag : p.tag = q.tag := h .tag
  have h₁ : p.srcMac = q.srcMac := hrange .srcMac
  have h₂ : p.dstMac = q.dstMac := hrange .dstMac
  have h₃ : p.srcIp = q.srcIp := hrange .srcIp
  have h₄ : p.dstIp = q.dstIp := hrange .dstIp
  have h₅ : p.srcPort = q.srcPort := hrange .srcPort
  have h₆ : p.dstPort = q.dstPort := hrange .dstPort
  cases p
  cases q
  congr

/-- A setting changes its own slot and leaves all others as they are. -/
theorem get_set (p : FlowPlan) (s : Setting) (slot : Slot) :
    (p.set s).get slot = if h : s.slot = slot then h ▸ s.value else p.get slot := by
  obtain ⟨changed, value⟩ := s
  cases changed with
  | range field =>
    cases slot with
    | range other => cases field <;> cases other <;> rfl
    | frameSize => cases field <;> rfl
    | tag => cases field <;> rfl
  | frameSize => cases slot <;> rfl
  | tag => cases slot <;> rfl

theorem get_set_self (p : FlowPlan) (s : Setting) : (p.set s).get s.slot = s.value := by
  rw [get_set, dif_pos rfl]

theorem get_set_of_ne (p : FlowPlan) {s : Setting} (h : s.slot ≠ slot) :
    (p.set s).get slot = p.get slot := by
  rw [get_set, dif_neg h]

theorem interface_set (p : FlowPlan) (s : Setting) : (p.set s).interface = p.interface := by
  obtain ⟨slot, value⟩ := s
  cases slot with
  | range field => cases field <;> rfl
  | frameSize => rfl
  | tag => rfl

/-- The last value that was set in a slot. -/
def LastSet (settings : List Setting) (slot : Slot) (v : slot.Value) : Prop :=
  ∃ before after, settings = before ++ ⟨slot, v⟩ :: after ∧ ∀ s ∈ after, s.slot ≠ slot

def Untouched (settings : List Setting) (slot : Slot) : Prop := ∀ s ∈ settings, s.slot ≠ slot

theorem get_apply_of_untouched (p : FlowPlan) (h : Untouched settings slot) :
    (p.apply settings).get slot = p.get slot := by
  induction settings generalizing p with
  | nil => rfl
  | cons s settings ih =>
    obtain ⟨hs, hrest⟩ := List.forall_mem_cons.1 h
    exact (ih (p.set s) hrest).trans (p.get_set_of_ne hs)

theorem get_apply_of_lastSet (p : FlowPlan) {v : slot.Value} (h : LastSet settings slot v) :
    (p.apply settings).get slot = v := by
  obtain ⟨before, after, rfl, hafter⟩ := h
  have hsplit : p.apply (before ++ ⟨slot, v⟩ :: after) =
      ((p.apply before).set ⟨slot, v⟩).apply after := List.foldl_append
  rw [hsplit, get_apply_of_untouched _ hafter]
  exact get_set_self _ ⟨slot, v⟩

theorem interface_apply (p : FlowPlan) (settings : List Setting) :
    (p.apply settings).interface = p.interface := by
  induction settings generalizing p with
  | nil => rfl
  | cons s settings ih => exact (ih (p.set s)).trans (p.interface_set s)

theorem lastSet_or_untouched (settings : List Setting) (slot : Slot) :
    (∃ v, LastSet settings slot v) ∨ Untouched settings slot := by
  induction settings with
  | nil => exact .inr (List.forall_mem_nil _)
  | cons s settings ih =>
    rcases ih with ⟨v, before, after, rfl, hafter⟩ | hrest
    · exact .inl ⟨v, s :: before, after, rfl, hafter⟩
    · by_cases hs : s.slot = slot
      · subst hs
        exact .inl ⟨s.value, [], settings, rfl, hrest⟩
      · exact .inr (List.forall_mem_cons.2 ⟨hs, hrest⟩)

/-- A plan with the last value that was set in each slot, and with the default where none was. -/
structure Requested (egress : String) (settings : List Setting) (p : FlowPlan) : Prop where
  interface : p.interface = egress
  value : ∀ slot, LastSet settings slot (p.get slot) ∨
    Untouched settings slot ∧ p.get slot = get { interface := egress } slot

theorem requested_apply (egress : String) (settings : List Setting) :
    Requested egress settings (apply { interface := egress } settings) := by
  constructor
  case interface => exact interface_apply _ settings
  case value =>
    intro slot
    rcases lastSet_or_untouched settings slot with ⟨v, hv⟩ | huntouched
    · rw [get_apply_of_lastSet _ hv]
      exact .inl hv
    · exact .inr ⟨huntouched, get_apply_of_untouched _ huntouched⟩

theorem Requested.eq_apply {egress : String} (h : Requested egress settings p) :
    p = apply { interface := egress } settings := by
  apply ext_get
  · rw [h.interface, interface_apply]
  · intro slot
    rcases h.value slot with hlast | ⟨huntouched, hdefault⟩
    · exact (get_apply_of_lastSet _ hlast).symm
    · rw [hdefault, get_apply_of_untouched _ huntouched]

/-- What a plan has to meet, in the order in which it is checked. -/
def requirements (p : FlowPlan) : List (Requirement ParameterError) :=
  ⟨46 + p.tag.overhead ≤ p.frameSize.toNat,
      .frameTooSmall p.frameSize.toNat (46 + p.tag.overhead)⟩ ::
    [.srcMac, .dstMac, .srcIp, .dstIp, .srcPort, .dstPort].map fun field =>
      ⟨(p.range field).count ≤ Nat.pow 2 20, .rangeTooLong field (p.range field).count⟩

theorem checked_payloadLength (size : UInt32) (tag : Tag) :
    Checked [⟨46 + tag.overhead ≤ size.toNat, .frameTooSmall size.toNat (46 + tag.overhead)⟩]
      (payloadLength size tag) := .single Iff.rfl _ _

theorem checked_checkLength {k : AddressKind} (field : FlowField) (r : AddressRange k) :
    Checked [⟨r.count ≤ Nat.pow 2 20, .rangeTooLong field r.count⟩] (checkLength field r) :=
  .single Iff.rfl _ _

theorem checked_build (p : FlowPlan) : Checked p.requirements p.build :=
  (checked_payloadLength p.frameSize p.tag).bind fun _ _ =>
    (checked_checkLength .srcMac p.srcMac).bind fun _ _ =>
    (checked_checkLength .dstMac p.dstMac).bind fun _ _ =>
    (checked_checkLength .srcIp p.srcIp).bind fun _ _ =>
    (checked_checkLength .dstIp p.dstIp).bind fun _ _ =>
    (checked_checkLength .srcPort p.srcPort).bind fun _ _ =>
    (checked_checkLength .dstPort p.dstPort).bind fun _ _ => .pure _

end FlowPlan

namespace Flow

def values (f : Flow) : (field : FlowField) → List (Address field.kind)
  | .srcMac => f.srcMac
  | .dstMac => f.dstMac
  | .srcIp => f.srcIp
  | .dstIp => f.dstIp
  | .srcPort => f.srcPort
  | .dstPort => f.dstPort

/-- A flow as a plan describes it. The payload has what the headers leave of the frame, and the
addresses of a range go on with zero after the last one of the kind. -/
structure Follows (f : Flow) (p : FlowPlan) : Prop where
  interface : f.interface = p.interface
  tag : f.tag = p.tag
  frameSize : f.frameSize = p.frameSize
  payload : f.payloadLength.toNat + 46 + p.tag.overhead = p.frameSize.toNat
  values : ∀ field, (f.values field).map Address.toNat =
    (List.range (p.range field).count).map fun i =>
      ((p.range field).base.toNat + i) % Nat.pow 2 field.kind.width

end Flow

theorem AddressRange.map_toNat_toList {k : AddressKind} (r : AddressRange k) :
    r.toList.map Address.toNat =
      (List.range r.count).map fun i => (r.base.toNat + i) % Nat.pow 2 k.width := by
  rw [toList, sequence, List.map_map]
  exact List.map_congr_left fun i _ => Address.toNat_add r.base i

theorem toNat_payloadLength {size payload : UInt32} {tag : Tag}
    (h : payloadLength size tag = .ok payload) :
    payload.toNat + 46 + tag.overhead = size.toNat := by
  have hoverhead : headerOverhead tag = 46 + tag.overhead := rfl
  have hsmall : tag.overhead ≤ 8 := by cases tag <;> simp [Tag.overhead]
  unfold payloadLength at h
  split at h
  · rename_i hle
    cases h
    have hword : (UInt32.ofNat (headerOverhead tag)).toNat = headerOverhead tag := by
      rw [UInt32.toNat_ofNat', Nat.mod_eq_of_lt (by omega)]
    rw [UInt32.toNat_sub_of_le _ _ (by rw [UInt32.le_iff_toNat_le, hword]; exact hle), hword]
    omega
  · cases h

namespace FlowPlan

variable {p : FlowPlan}

theorem follows_of_build {flow : Flow} (h : p.build = .ok flow) : flow.Follows p := by
  obtain ⟨payload, hpayload, h⟩ := bind_eq_ok h
  obtain ⟨_, -, h⟩ := bind_eq_ok h
  obtain ⟨_, -, h⟩ := bind_eq_ok h
  obtain ⟨_, -, h⟩ := bind_eq_ok h
  obtain ⟨_, -, h⟩ := bind_eq_ok h
  obtain ⟨_, -, h⟩ := bind_eq_ok h
  obtain ⟨_, -, h⟩ := bind_eq_ok h
  cases h
  constructor
  case interface => rfl
  case tag => rfl
  case frameSize => rfl
  case payload => exact toNat_payloadLength hpayload
  case values =>
    intro field
    cases field with
    | srcMac => exact p.srcMac.map_toNat_toList
    | dstMac => exact p.dstMac.map_toNat_toList
    | srcIp => exact p.srcIp.map_toNat_toList
    | dstIp => exact p.dstIp.map_toNat_toList
    | srcPort => exact p.srcPort.map_toNat_toList
    | dstPort => exact p.dstPort.map_toNat_toList

theorem kind_of_mem_requirements {r : Requirement ParameterError} (h : r ∈ p.requirements) :
    r.error.kind = .validation := by
  rcases List.mem_cons.1 h with rfl | h
  · rfl
  · obtain ⟨field, -, rfl⟩ := List.mem_map.1 h
    rfl

end FlowPlan
end LoadBench

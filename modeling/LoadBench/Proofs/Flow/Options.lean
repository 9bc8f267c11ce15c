import LoadBench.Flow.Options
import LoadBench.Proofs.Flow.Plan

/-!
Flows described by texts, beside plans that are made setting by setting.

Main statement: options of which some are overridden build what a plan builds in which only these
are set, in any order, unless one of the texts is faulty; then the first fault is reported.
-/
namespace LoadBench

open FlowPlan (Slot Setting get)

/-- Texts and a size that take the place of the defaults. What is not given is left alone. -/
structure FlowOverrides where
  range : FlowField → Option String := fun _ => none
  dot1q : Option String := none
  qinq : Option String := none
  size : Option UInt32 := none

namespace FlowOptions

def override (egress : String) (o : FlowOverrides) : FlowOptions :=
  let d : FlowOptions := { interface := egress }
  { d with
    srcIp := (o.range .srcIp).getD d.srcIp
    dstIp := (o.range .dstIp).getD d.dstIp
    srcMac := (o.range .srcMac).getD d.srcMac
    dstMac := (o.range .dstMac).getD d.dstMac
    srcPort := (o.range .srcPort).getD d.srcPort
    dstPort := (o.range .dstPort).getD d.dstPort
    dot1q := o.dot1q
    qinq := o.qinq
    size := o.size.getD d.size }

end FlowOptions

namespace FlowOverrides

/-- What is given for a slot of a plan: nothing, or the value that is read from a text. The two texts
of the tags give one value. -/
def value? (o : FlowOverrides) : (slot : Slot) → Except ParameterError (Option slot.Value)
  | .range field =>
    match o.range field with
    | none => .ok none
    | some s => (FlowOptions.range s).map some
  | .frameSize => .ok o.size
  | .tag =>
    if o.dot1q.isSome || o.qinq.isSome then (Tag.ofOptions o.dot1q o.qinq).map some else .ok none

/-- The slots that are read from texts, in the order in which faults are reported. -/
def textSlots : List Slot :=
  .tag :: [.srcIp, .dstIp, .srcMac, .dstMac, .srcPort, .dstPort].map Slot.range

/-- The error of the first text that has a fault. -/
def FirstFault (o : FlowOverrides) (e : ParameterError) : Prop :=
  ∃ before slot after, textSlots = before ++ slot :: after ∧
    (∀ q ∈ before, ∃ v, o.value? q = .ok v) ∧ o.value? slot = .error e

/-- Settings of what is given, and of nothing else, in any order. -/
def IsSetBy (o : FlowOverrides) (settings : List Setting) : Prop :=
  ∀ s, s ∈ settings ↔ o.value? s.slot = .ok (some s.value)

/-- The settings of what is given, in the order in which it is read. -/
def given (o : FlowOverrides) : List Setting :=
  (Slot.frameSize :: textSlots).filterMap fun slot =>
    (o.value? slot).toOption.join.map (Setting.mk slot)

variable {o : FlowOverrides} {egress : String} {settings : List Setting} {p : FlowPlan}

/-- What a slot gets: the value that is given, or else the default. -/
def reading (o : FlowOverrides) (egress : String) (slot : Slot) :
    Except ParameterError slot.Value :=
  (o.value? slot).map fun v => v.getD (get { interface := egress } slot)

theorem value?_range {field : FlowField} {s : String} (h : o.range field = some s) :
    o.value? (.range field) =
      (FlowOptions.range s : Except ParameterError (AddressRange field.kind)).map some := by
  simp only [value?, h]
  rfl

/-- A text and a value are the same default when the text is read as the value. -/
theorem range_getD (egress : String) {field : FlowField} {text : String}
    (h : FlowOptions.range text = .ok (FlowPlan.range { interface := egress } field)) :
    FlowOptions.range ((o.range field).getD text) = o.reading egress (.range field) := by
  cases hgiven : o.range field with
  | none =>
    have hvalue : o.value? (.range field) = .ok none := by simp only [value?, hgiven]
    rw [reading, hvalue]
    exact h
  | some s =>
    rw [reading, value?_range hgiven, Option.getD_some]
    cases (FlowOptions.range s : Except ParameterError (AddressRange field.kind)) with
    | error e => rfl
    | ok r => rfl

theorem ofOptions_eq_reading (o : FlowOverrides) (egress : String) :
    Tag.ofOptions o.dot1q o.qinq = o.reading egress .tag := by
  unfold reading value?
  cases hgiven : o.dot1q.isSome || o.qinq.isSome with
  | false =>
    obtain ⟨hdot1q, hqinq⟩ := Bool.or_eq_false_iff.1 hgiven
    rw [Option.isSome_eq_false_iff, Option.isNone_iff_eq_none] at hdot1q hqinq
    rw [hdot1q, hqinq]
    rfl
  | true =>
    rw [if_pos rfl]
    cases Tag.ofOptions o.dot1q o.qinq with
    | error e => rfl
    | ok tag => rfl

/-- The defaults as texts are the defaults as values, so that the plan of the texts has what is given
for each slot. -/
theorem plan_override (o : FlowOverrides) (egress : String) :
    (FlowOptions.override egress o).plan = do
      let tag ← o.reading egress .tag
      let srcIp ← o.reading egress (.range .srcIp)
      let dstIp ← o.reading egress (.range .dstIp)
      let srcMac ← o.reading egress (.range .srcMac)
      let dstMac ← o.reading egress (.range .dstMac)
      let srcPort ← o.reading egress (.range .srcPort)
      let dstPort ← o.reading egress (.range .dstPort)
      return {
        interface := egress, frameSize := o.size.getD 64
        srcMac, dstMac, srcIp, dstIp, srcPort, dstPort, tag } := by
  have hsrcIp : FlowOptions.range "1.1.1.1" =
      .ok (AddressRange.single (.ofOctets [1, 1, 1, 1] : Ipv4)) := by decide +kernel
  have hdstIp : FlowOptions.range "1.1.1.2" =
      .ok (AddressRange.single (.ofOctets [1, 1, 1, 2] : Ipv4)) := by decide +kernel
  have hsrcMac : FlowOptions.range "c6:0f:aa:aa:00:00" =
      .ok (AddressRange.single (.ofOctets [0xC6, 0x0F, 0xAA, 0xAA, 0, 0] : Mac)) := by
    decide +kernel
  have hdstMac : FlowOptions.range "c6:0f:bb:bb:00:00" =
      .ok (AddressRange.single (.ofOctets [0xC6, 0x0F, 0xBB, 0xBB, 0, 0] : Mac)) := by
    decide +kernel
  have hsrcPort : FlowOptions.range "10000" =
      .ok (AddressRange.single (.ofNat 10000 : Port)) := by decide +kernel
  have hdstPort : FlowOptions.range "20000" =
      .ok (AddressRange.single (.ofNat 20000 : Port)) := by decide +kernel
  rw [← ofOptions_eq_reading, ← range_getD egress hsrcIp, ← range_getD egress hdstIp,
    ← range_getD egress hsrcMac, ← range_getD egress hdstMac, ← range_getD egress hsrcPort,
    ← range_getD egress hdstPort]
  rfl

theorem reading_eq_ok_iff {slot : Slot} {v : slot.Value} :
    o.reading egress slot = .ok v ↔
      ∃ given, o.value? slot = .ok given ∧ given.getD (get { interface := egress } slot) = v := by
  unfold reading
  cases o.value? slot with
  | error e => simp [Except.map]
  | ok given => simp [Except.map]

/-- A plan that is read from texts has in each slot what the slot gets. -/
theorem reading_eq_get (h : (FlowOptions.override egress o).plan = .ok p) :
    p.interface = egress ∧ ∀ slot, o.reading egress slot = .ok (p.get slot) := by
  rw [plan_override] at h
  obtain ⟨tag, htag, h⟩ := bind_eq_ok h
  obtain ⟨srcIp, hsrcIp, h⟩ := bind_eq_ok h
  obtain ⟨dstIp, hdstIp, h⟩ := bind_eq_ok h
  obtain ⟨srcMac, hsrcMac, h⟩ := bind_eq_ok h
  obtain ⟨dstMac, hdstMac, h⟩ := bind_eq_ok h
  obtain ⟨srcPort, hsrcPort, h⟩ := bind_eq_ok h
  obtain ⟨dstPort, hdstPort, h⟩ := bind_eq_ok h
  cases h
  refine ⟨rfl, ?_⟩
  intro slot
  cases slot with
  | frameSize => rfl
  | tag => exact htag
  | range field =>
    cases field with
    | srcMac => exact hsrcMac
    | dstMac => exact hdstMac
    | srcIp => exact hsrcIp
    | dstIp => exact hdstIp
    | srcPort => exact hsrcPort
    | dstPort => exact hdstPort

/-- Texts that are read without a fault ask for what the setters of the given ones ask for. -/
theorem requested_of_isSetBy (hset : o.IsSetBy settings)
    (h : (FlowOptions.override egress o).plan = .ok p) :
    FlowPlan.Requested egress settings p := by
  obtain ⟨hinterface, hreading⟩ := reading_eq_get h
  constructor
  case interface => exact hinterface
  case value =>
    intro slot
    obtain ⟨given, hvalue, hget⟩ := reading_eq_ok_iff.1 (hreading slot)
    rcases FlowPlan.lastSet_or_untouched settings slot with ⟨v, hlast⟩ | huntouched
    · have hmem : (⟨slot, v⟩ : Setting) ∈ settings := by
        obtain ⟨before, after, rfl, -⟩ := hlast
        simp
      have hv : o.value? slot = .ok (some v) := (hset ⟨slot, v⟩).1 hmem
      have hgiven : given = some v := Except.ok.inj (hvalue.symm.trans hv)
      rw [hgiven, Option.getD_some] at hget
      exact .inl (hget ▸ hlast)
    · have hgiven : given = none := by
        cases given with
        | none => rfl
        | some v => exact absurd rfl (huntouched ⟨slot, v⟩ ((hset ⟨slot, v⟩).2 hvalue))
      rw [hgiven, Option.getD_none] at hget
      exact .inr ⟨huntouched, hget.symm⟩

/-- The requirement that a slot is read without a fault. -/
def readable (o : FlowOverrides) (fault : Slot → ParameterError) (slot : Slot) :
    Requirement ParameterError := ⟨∃ v, o.value? slot = .ok v, fault slot⟩

theorem not_readable {fault : Slot → ParameterError} {slot : Slot} {e : ParameterError}
    (h : o.value? slot = .error e) : ¬(o.readable fault slot).holds := by
  rintro ⟨v, hv⟩
  rw [h] at hv
  cases hv

theorem checked_reading {fault : Slot → ParameterError}
    (hfault : ∀ slot e, o.value? slot = .error e → fault slot = e) (slot : Slot) :
    Checked [o.readable fault slot] (o.reading egress slot) := by
  unfold reading
  cases hvalue : o.value? slot with
  | ok v => exact .passed (List.forall_mem_singleton.2 ⟨v, hvalue⟩)
  | error e =>
    exact .failed ⟨[], _, [], rfl, by simp, not_readable hvalue, hfault slot e hvalue⟩

theorem checked_plan {fault : Slot → ParameterError}
    (hfault : ∀ slot e, o.value? slot = .error e → fault slot = e) :
    Checked (textSlots.map (o.readable fault)) (FlowOptions.override egress o).plan := by
  rw [plan_override]
  exact (checked_reading hfault .tag).bind fun _ _ =>
    (checked_reading hfault (.range .srcIp)).bind fun _ _ =>
    (checked_reading hfault (.range .dstIp)).bind fun _ _ =>
    (checked_reading hfault (.range .srcMac)).bind fun _ _ =>
    (checked_reading hfault (.range .dstMac)).bind fun _ _ =>
    (checked_reading hfault (.range .srcPort)).bind fun _ _ =>
    (checked_reading hfault (.range .dstPort)).bind fun _ _ => .pure _

theorem plan_eq_error_iff {e : ParameterError} :
    (FlowOptions.override egress o).plan = .error e ↔ o.FirstFault e := by
  -- What stands for the error of a slot that has none does not matter.
  let fault (slot : Slot) : ParameterError := match o.value? slot with
    | .error e => e
    | .ok _ => .noFlows
  have hfault : ∀ slot e, o.value? slot = .error e → fault slot = e := by
    intro slot e h
    simp only [fault, h]
  rw [(checked_plan hfault).eq_error_iff]
  constructor
  · rintro ⟨before, r, after, hparts, hbefore, hr, he⟩
    obtain ⟨slots, rest, hslots, rfl, hrest⟩ := List.map_eq_append_iff.1 hparts
    obtain ⟨slot, later, rfl, rfl, rfl⟩ := List.map_eq_cons_iff.1 hrest
    refine ⟨slots, slot, later, hslots, List.forall_mem_map.1 hbefore, ?_⟩
    cases hvalue : o.value? slot with
    | ok v => exact absurd ⟨v, hvalue⟩ hr
    | error e' => rw [← he, readable, hfault slot e' hvalue]
  · rintro ⟨slots, slot, later, hslots, hbefore, hvalue⟩
    refine ⟨slots.map (o.readable fault), o.readable fault slot, later.map (o.readable fault), ?_,
      List.forall_mem_map.2 hbefore, not_readable hvalue, hfault slot e hvalue⟩
    rw [hslots, List.map_append, List.map_cons]

theorem isSetBy_given (o : FlowOverrides) : o.IsSetBy o.given := by
  have hall : ∀ slot : Slot, slot ∈ Slot.frameSize :: textSlots := by
    intro slot
    cases slot with
    | range field => cases field <;> decide
    | frameSize => decide
    | tag => decide
  have hvalue : ∀ (slot : Slot) (v : slot.Value),
      (o.value? slot).toOption.join = some v ↔ o.value? slot = .ok (some v) := by
    intro slot v
    cases o.value? slot with
    | error e => simp [Except.toOption]
    | ok given => simp [Except.toOption]
  intro s
  rw [given, List.mem_filterMap]
  constructor
  · rintro ⟨slot, -, h⟩
    obtain ⟨v, hv, rfl⟩ := Option.map_eq_some_iff.1 h
    exact (hvalue slot v).1 hv
  · intro h
    exact ⟨s.slot, hall s.slot, Option.map_eq_some_iff.2 ⟨s.value, (hvalue _ _).2 h, rfl⟩⟩

/-- What options build of which some are overridden. The first fault in their texts is reported, in
the order of `textSlots`. Without a fault they build what a plan builds, or report what it reports,
in which the given values are set and no others, in any order. -/
theorem build_overridden (egress : String) (o : FlowOverrides) :
    o.IsSetBy o.given ∧
      (∀ e, o.FirstFault e → (FlowOptions.override egress o).build = .error e) ∧
      ((∀ e, ¬o.FirstFault e) → ∀ settings, o.IsSetBy settings →
        (FlowOptions.override egress o).build =
          (FlowPlan.apply { interface := egress } settings).build) := by
  have hbuild : (FlowOptions.override egress o).build =
      (FlowOptions.override egress o).plan >>= FlowPlan.build := rfl
  refine ⟨o.isSetBy_given, ?_, ?_⟩
  · intro e h
    rw [hbuild, plan_eq_error_iff.2 h]
    rfl
  · intro hnone settings hset
    cases hplan : (FlowOptions.override egress o).plan with
    | error e => exact absurd (plan_eq_error_iff.1 hplan) (hnone e)
    | ok p =>
      have hrequested := requested_of_isSetBy hset hplan
      rw [hbuild, hplan, ← hrequested.eq_apply]
      rfl

/-- Two faulty texts, of which the one that is read first is reported; and ports past the last one,
tags and a size that just holds the headers, set in another order than that of the texts. -/
theorem build_overridden_each :
    let faulty : FlowOverrides := { range := fun
      | .dstIp => some "1.1.1.1,0"
      | .srcMac => some "c6:0f"
      | _ => none }
    let o : FlowOverrides :=
      { range := fun
          | .srcPort => some "65535, +3"
          | _ => none
        qinq := some "1,2,3", size := some 54 }
    let ports : AddressRange .port := { base := .ofNat 65535, count := 3 }
    let settings : List Setting :=
      [⟨.frameSize, (54 : UInt32)⟩, ⟨.range .srcPort, ports⟩, ⟨.tag, .qinq 1 2 3⟩]
    faulty.FirstFault (.format (.count "0")) ∧
      (FlowOptions.override "eth1" faulty).build = .error (.format (.count "0")) ∧
      (∀ e, ¬o.FirstFault e) ∧ o.IsSetBy settings ∧
      (FlowOptions.override "eth1" o).build =
        (FlowPlan.apply { interface := "eth1" } settings).build := by
  intro faulty o ports settings
  have hfirst : faulty.FirstFault (.format (.count "0")) := by
    have hread : (FlowOptions.range "1.1.1.1,0" : Except ParameterError (AddressRange .ipv4)) =
        .error (.format (.count "0")) := by decide +kernel
    refine ⟨[.tag, .range .srcIp], .range .dstIp, _, rfl, ?_,
      (value?_range rfl).trans (congrArg (Except.map some) hread)⟩
    intro q hq
    rcases List.mem_cons.1 hq with rfl | hq
    · exact ⟨none, rfl⟩
    · obtain rfl := List.mem_singleton.1 hq
      exact ⟨none, rfl⟩
  have htag : o.value? .tag = .ok (some (.qinq 1 2 3)) := by
    have hread : Tag.ofOptions none (some "1,2,3") = .ok (.qinq 1 2 3) := by decide +kernel
    exact congrArg (Except.map some) hread
  have hports : o.value? (.range .srcPort) = .ok (some ports) := by
    have hread : FlowOptions.range "65535, +3" = .ok ports := by decide +kernel
    exact (value?_range rfl).trans (congrArg (Except.map some) hread)
  have hnone : ∀ e, ¬o.FirstFault e := by
    rintro e ⟨_, slot, _, -, -, hvalue⟩
    cases slot with
    | frameSize => cases hvalue
    | tag => exact nomatch hvalue.symm.trans htag
    | range field =>
      cases field with
      | srcPort => exact nomatch hvalue.symm.trans hports
      | _ => cases hvalue
  have hset : o.IsSetBy settings := by
    rintro ⟨slot, v⟩
    constructor
    · intro hmem
      simp only [settings, List.mem_cons, List.not_mem_nil, or_false] at hmem
      rcases hmem with h | h | h
      · cases h
        rfl
      · cases h
        exact hports
      · cases h
        exact htag
    · intro hvalue
      cases slot with
      | frameSize =>
        cases hvalue
        simp [settings]
      | tag =>
        have hv : v = Tag.qinq 1 2 3 := Option.some.inj (Except.ok.inj (hvalue.symm.trans htag))
        simp [settings, hv]
      | range field =>
        cases field with
        | srcPort =>
          have hv : v = ports := Option.some.inj (Except.ok.inj (hvalue.symm.trans hports))
          simp [settings, hv]
        | _ => cases hvalue
  obtain ⟨-, herror, -⟩ := build_overridden "eth1" faulty
  obtain ⟨-, -, hagree⟩ := build_overridden "eth1" o
  exact ⟨hfirst, herror _ hfirst, hnone, hset, hagree hnone settings hset⟩

end FlowOverrides
end LoadBench

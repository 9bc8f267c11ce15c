import LoadBench.Flow.Tag
import LoadBench.Proofs.Requirements
import LoadBench.Proofs.Text.Unsigned

/-!
The tag that two optional texts ask for.

Main statement: the texts that are read are those of the grammar, the fields of both are decided on
by one table, and a tag that comes out carries all fields as they were given.
-/
namespace LoadBench.Tag

/-- A VLAN as a text gives it, of sixteen bits. -/
def IsVlan : List Char → Nat → Prop := Text.IsField UInt16.size

/-- A priority as a text gives it, of eight bits. -/
def IsPriority : List Char → Nat → Prop := Text.IsField UInt8.size

/-- `vlan` or `vlan,priority`, with the fields that they give. -/
inductive Dot1qText : List Char → Nat × Nat → Prop
  | vlan {cs : List Char} {v : Nat} (vlan : IsVlan cs v) : Dot1qText cs (v, 0)
  | tag {left right : List Char} {v p : Nat} (vlan : IsVlan left v)
      (priority : IsPriority right p) : Dot1qText (left ++ ',' :: right) (v, p)

/-- `vlan` for both tags, `outer,inner`, or `outer,inner,priority`, with the fields. -/
inductive QinqText : List Char → Nat × Nat × Nat → Prop
  | same {cs : List Char} {v : Nat} (vlan : IsVlan cs v) : QinqText cs (v, v, 0)
  | vlans {left right : List Char} {o i : Nat} (outer : IsVlan left o) (inner : IsVlan right i) :
      QinqText (left ++ ',' :: right) (o, i, 0)
  | tags {left middle right : List Char} {o i p : Nat} (outer : IsVlan left o)
      (inner : IsVlan middle i) (priority : IsPriority right p) :
      QinqText (left ++ ',' :: (middle ++ ',' :: right)) (o, i, p)

theorem readField_eq_ok_iff {kind : FieldKind} {bound : Nat} {cs : List Char} {n : Nat} :
    readField kind bound cs = .ok n ↔ Text.IsField bound cs n := by
  rw [← Text.readUnsigned?_trim_eq_some_iff, readField]
  cases Text.readUnsigned? bound (Text.trim cs) with
  | none => exact iff_of_false (fun h => nomatch h) fun h => nomatch h
  | some m => exact ⟨fun h => congrArg some (Except.ok.inj h), fun h => by rw [Option.some.inj h]⟩

theorem comma_notMem {bound : Nat} {cs : List Char} {n : Nat} (h : Text.IsField bound cs n) :
    ',' ∉ cs := h.notMem (by decide) rfl rfl

theorem splitOn_of_isField {bound : Nat} {cs : List Char} {n : Nat} (h : Text.IsField bound cs n) :
    cs.splitOn ',' = [cs] := List.splitOn_eq_singleton (comma_notMem h)

theorem readDot1q_eq_ok_iff {s : String} {fields : Nat × Nat} :
    readDot1q s = .ok fields ↔ Dot1qText s.toList fields := by
  unfold readDot1q
  constructor
  · intro h
    have hparts : List.intercalate [','] (s.toList.splitOn ',') = s.toList :=
      List.intercalate_splitOn ','
    split at h
    · rename_i v hsplit
      rw [hsplit, List.intercalate_singleton] at hparts
      obtain ⟨n, hn, h⟩ := bind_eq_ok h
      cases h
      exact hparts ▸ .vlan (readField_eq_ok_iff.1 hn)
    · rename_i v p hsplit
      rw [hsplit, intercalate_singleton_cons_cons, List.intercalate_singleton] at hparts
      obtain ⟨m, hm, h⟩ := bind_eq_ok h
      obtain ⟨n, hn, h⟩ := bind_eq_ok h
      cases h
      exact hparts ▸ .tag (readField_eq_ok_iff.1 hm) (readField_eq_ok_iff.1 hn)
    · cases h
  · generalize s.toList = cs
    intro h
    cases h with
    | vlan vlan =>
      rw [splitOn_of_isField vlan]
      show (readField _ _ _ >>= _) = _
      rw [readField_eq_ok_iff.2 vlan]
      rfl
    | tag vlan priority =>
      rw [List.splitOn_append_cons_self_of_not_mem (comma_notMem vlan), splitOn_of_isField priority]
      show (readField _ _ _ >>= fun v => readField _ _ _ >>= _) = _
      rw [readField_eq_ok_iff.2 vlan, readField_eq_ok_iff.2 priority]
      rfl

theorem readQinq_eq_ok_iff {s : String} {fields : Nat × Nat × Nat} :
    readQinq s = .ok fields ↔ QinqText s.toList fields := by
  unfold readQinq
  constructor
  · intro h
    have hparts : List.intercalate [','] (s.toList.splitOn ',') = s.toList :=
      List.intercalate_splitOn ','
    split at h
    · rename_i v hsplit
      rw [hsplit, List.intercalate_singleton] at hparts
      obtain ⟨n, hn, h⟩ := bind_eq_ok h
      cases h
      exact hparts ▸ .same (readField_eq_ok_iff.1 hn)
    · rename_i o i hsplit
      rw [hsplit, intercalate_singleton_cons_cons, List.intercalate_singleton] at hparts
      obtain ⟨m, hm, h⟩ := bind_eq_ok h
      obtain ⟨n, hn, h⟩ := bind_eq_ok h
      cases h
      exact hparts ▸ .vlans (readField_eq_ok_iff.1 hm) (readField_eq_ok_iff.1 hn)
    · rename_i o i p hsplit
      rw [hsplit, intercalate_singleton_cons_cons, intercalate_singleton_cons_cons,
        List.intercalate_singleton] at hparts
      obtain ⟨l, hl, h⟩ := bind_eq_ok h
      obtain ⟨m, hm, h⟩ := bind_eq_ok h
      obtain ⟨n, hn, h⟩ := bind_eq_ok h
      cases h
      exact hparts ▸
        .tags (readField_eq_ok_iff.1 hl) (readField_eq_ok_iff.1 hm) (readField_eq_ok_iff.1 hn)
    · cases h
  · generalize s.toList = cs
    intro h
    cases h with
    | same vlan =>
      rw [splitOn_of_isField vlan]
      show (readField _ _ _ >>= _) = _
      rw [readField_eq_ok_iff.2 vlan]
      rfl
    | vlans outer inner =>
      rw [List.splitOn_append_cons_self_of_not_mem (comma_notMem outer), splitOn_of_isField inner]
      show (readField _ _ _ >>= fun o => readField _ _ _ >>= _) = _
      rw [readField_eq_ok_iff.2 outer, readField_eq_ok_iff.2 inner]
      rfl
    | tags outer inner priority =>
      rw [List.splitOn_append_cons_self_of_not_mem (comma_notMem outer),
        List.splitOn_append_cons_self_of_not_mem (comma_notMem inner), splitOn_of_isField priority]
      show (readField _ _ _ >>= fun o => readField _ _ _ >>= fun i => readField _ _ _ >>= _) = _
      rw [readField_eq_ok_iff.2 outer, readField_eq_ok_iff.2 inner, readField_eq_ok_iff.2 priority]
      rfl

/-- The fields that an optional text asks for. Without a text they are the `unset` ones. -/
inductive Asks {α : Type} (Spells : List Char → α → Prop) (unset : α) : Option String → α → Prop
  | absent : Asks Spells unset none unset
  | given {s : String} {a : α} (text : Spells s.toList a) : Asks Spells unset (some s) a

def AsksDot1q : Option String → Nat × Nat → Prop := Asks Dot1qText (0, 0)

def AsksQinq : Option String → Nat × Nat × Nat → Prop := Asks QinqText (0, 0, 0)

theorem elim_read_eq_ok_iff {α : Type} {Spells : List Char → α → Prop} {unset a : α}
    {read : String → Except FormatError α} (hread : ∀ s, read s = .ok a ↔ Spells s.toList a)
    {o : Option String} : o.elim (.ok unset) read = .ok a ↔ Asks Spells unset o a := by
  cases o with
  | none =>
    constructor
    · intro h
      cases h
      exact .absent
    · rintro ⟨⟩
      rfl
  | some s =>
    constructor
    · exact fun h => .given ((hread s).1 h)
    · rintro (_ | text)
      exact (hread s).2 text

theorem checked_checkVlan (vlan : Nat) :
    Checked [⟨vlan ≤ 4095, .field .vlanId vlan.repr⟩] (checkVlan vlan) := .single Iff.rfl _ _

theorem checked_checkPriority (priority : Nat) :
    Checked [⟨priority ≤ 7, .field .vlanPriority priority.repr⟩] (checkPriority priority) :=
  .single Iff.rfl _ _

theorem single_eq_ok {v p : Nat} (h : v ≤ 4095 ∧ p ≤ 7) : single v p = .ok (.dot1q v p) := by
  unfold single checkVlan checkPriority maxVlan maxPriority
  rw [if_pos h.1, if_pos h.2]
  rfl

theorem exists_single_eq_error {v p : Nat} (h : ¬(v ≤ 4095 ∧ p ≤ 7)) :
    ∃ e, single v p = .error e := by
  have hchecked : Checked _ (single v p) :=
    (checked_checkVlan v).bind fun _ _ => (checked_checkPriority p).bind fun _ _ => .pure _
  apply hchecked.exists_error
  simpa using h

theorem double_eq_ok {o i k : Nat} (h : o ≤ 4095 ∧ i ≤ 4095 ∧ k ≤ 7) :
    double o i k = .ok (.qinq o i k) := by
  unfold double checkVlan checkPriority maxVlan maxPriority
  rw [if_pos h.1, if_pos h.2.1, if_pos h.2.2]
  rfl

theorem exists_double_eq_error {o i k : Nat} (h : ¬(o ≤ 4095 ∧ i ≤ 4095 ∧ k ≤ 7)) :
    ∃ e, double o i k = .error e := by
  have hchecked : Checked _ (double o i k) :=
    (checked_checkVlan o).bind fun _ _ => (checked_checkVlan i).bind fun _ _ =>
      (checked_checkPriority k).bind fun _ _ => .pure _
  apply hchecked.exists_error
  simpa using h

/-- A result that is an error of a given kind. -/
def Fails (r : Except ParameterError Tag) (kind : ErrorKind) : Prop :=
  ∃ e, r = .error e ∧ e.kind = kind

/-- The decision on the fields `v`, `p` of an 802.1Q tag and `o`, `i`, `k` of QinQ tags. Fields that
are all zero ask for nothing. -/
structure Decided (v p o i k : Nat) (r : Except ParameterError Tag) : Prop where
  exclusive : v ≠ 0 ∨ p ≠ 0 → o ≠ 0 ∨ i ≠ 0 ∨ k ≠ 0 →
    r = .error (.exclusiveTags v p o i k) ∧ Fails r .configuration
  dot1q : v ≠ 0 ∨ p ≠ 0 → o = 0 ∧ i = 0 ∧ k = 0 → v ≤ 4095 ∧ p ≤ 7 → r = .ok (.dot1q v p)
  dot1qLimits : v ≠ 0 ∨ p ≠ 0 → o = 0 ∧ i = 0 ∧ k = 0 → ¬(v ≤ 4095 ∧ p ≤ 7) → Fails r .format
  outerZero : v = 0 ∧ p = 0 → o = 0 → i ≠ 0 ∨ k ≠ 0 →
    r = .error (.outerVlanZero o i k) ∧ Fails r .validation
  qinq : v = 0 ∧ p = 0 → o ≠ 0 → o ≤ 4095 ∧ i ≤ 4095 ∧ k ≤ 7 → r = .ok (.qinq o i k)
  qinqLimits : v = 0 ∧ p = 0 → o ≠ 0 → ¬(o ≤ 4095 ∧ i ≤ 4095 ∧ k ≤ 7) → Fails r .format
  untagged : v = 0 ∧ p = 0 → o = 0 ∧ i = 0 ∧ k = 0 → r = .ok .untagged

variable {d q : Option String} {v p o i k : Nat}

theorem ofOptions_eq (hd : AsksDot1q d (v, p)) (hq : AsksQinq q (o, i, k)) :
    ofOptions d q =
      match decide (v ≠ 0 ∨ p ≠ 0), decide (o ≠ 0 ∨ i ≠ 0 ∨ k ≠ 0) with
      | true, true => .error (.exclusiveTags v p o i k)
      | true, false => (single v p).mapError .format
      | false, true =>
        if o = 0 then .error (.outerVlanZero o i k) else (double o i k).mapError .format
      | false, false => .ok .untagged := by
  unfold ofOptions
  rw [(elim_read_eq_ok_iff fun _ => readDot1q_eq_ok_iff).2 hd,
    (elim_read_eq_ok_iff fun _ => readQinq_eq_ok_iff).2 hq]
  rfl

theorem decided_ofOptions (hd : AsksDot1q d (v, p)) (hq : AsksQinq q (o, i, k)) :
    Decided v p o i k (ofOptions d q) := by
  rw [ofOptions_eq hd hq]
  constructor
  case exclusive =>
    intro hset hset'
    rw [decide_eq_true hset, decide_eq_true hset']
    exact ⟨rfl, _, rfl, rfl⟩
  case dot1q =>
    intro hset hunset hlimits
    rw [decide_eq_true hset, decide_eq_false (by omega), single_eq_ok hlimits]
    rfl
  case dot1qLimits =>
    intro hset hunset hlimits
    obtain ⟨e, he⟩ := exists_single_eq_error hlimits
    rw [decide_eq_true hset, decide_eq_false (by omega), he]
    exact ⟨.format e, rfl, rfl⟩
  case outerZero =>
    intro hunset houter hset
    rw [decide_eq_false (by omega), decide_eq_true (.inr hset), if_pos houter]
    exact ⟨rfl, _, rfl, rfl⟩
  case qinq =>
    intro hunset houter hlimits
    rw [decide_eq_false (by omega), decide_eq_true (.inl houter), if_neg houter,
      double_eq_ok hlimits]
    rfl
  case qinqLimits =>
    intro hunset houter hlimits
    obtain ⟨e, he⟩ := exists_double_eq_error hlimits
    rw [decide_eq_false (by omega), decide_eq_true (.inl houter), if_neg houter, he]
    exact ⟨.format e, rfl, rfl⟩
  case untagged =>
    intro hunset hunset'
    rw [decide_eq_false (by omega), decide_eq_false (by omega)]

/-- A text of the first option that is malformed is reported, whatever the other option says. -/
theorem fails_of_malformed_dot1q (hd : ∀ fields, ¬AsksDot1q d fields) :
    Fails (ofOptions d q) .format := by
  cases hread : d.elim (.ok (0, 0)) readDot1q with
  | ok fields =>
    exact absurd ((elim_read_eq_ok_iff fun _ => readDot1q_eq_ok_iff).1 hread) (hd fields)
  | error e =>
    unfold ofOptions
    rw [hread]
    exact ⟨.format e, rfl, rfl⟩

theorem fails_of_malformed_qinq (hd : AsksDot1q d (v, p)) (hq : ∀ fields, ¬AsksQinq q fields) :
    Fails (ofOptions d q) .format := by
  cases hread : q.elim (.ok (0, 0, 0)) readQinq with
  | ok fields =>
    exact absurd ((elim_read_eq_ok_iff fun _ => readQinq_eq_ok_iff).1 hread) (hq fields)
  | error e =>
    unfold ofOptions
    rw [(elim_read_eq_ok_iff fun _ => readDot1q_eq_ok_iff).2 hd, hread]
    exact ⟨.format e, rfl, rfl⟩

theorem exists_asks_of_ok {tag : Tag} (h : ofOptions d q = .ok tag) :
    ∃ v p o i k, AsksDot1q d (v, p) ∧ AsksQinq q (o, i, k) := by
  obtain ⟨⟨v, p⟩, hd, h⟩ := bind_eq_ok h
  obtain ⟨⟨o, i, k⟩, hq, -⟩ := bind_eq_ok h
  rw [mapError_eq_ok_iff] at hd hq
  exact ⟨v, p, o, i, k, (elim_read_eq_ok_iff fun _ => readDot1q_eq_ok_iff).1 hd,
    (elim_read_eq_ok_iff fun _ => readQinq_eq_ok_iff).1 hq⟩

/-- The fields of an 802.1Q tag that a tag carries, all zero if it is no such tag. -/
def dot1qFields : Tag → Nat × Nat
  | .dot1q v p => (v, p)
  | _ => (0, 0)

def qinqFields : Tag → Nat × Nat × Nat
  | .qinq o i k => (o, i, k)
  | _ => (0, 0, 0)

def WithinLimits : Tag → Prop
  | .untagged => True
  | .dot1q v p => v ≤ 4095 ∧ p ≤ 7
  | .qinq o i k => o ≠ 0 ∧ o ≤ 4095 ∧ i ≤ 4095 ∧ k ≤ 7

theorem Decided.carried {tag : Tag} (h : Decided v p o i k (.ok tag)) :
    tag.dot1qFields = (v, p) ∧ tag.qinqFields = (o, i, k) ∧ tag.WithinLimits := by
  have hok : ∀ kind, ¬Fails (.ok tag) kind := fun _ ⟨_, he, _⟩ => nomatch he
  by_cases hset : v ≠ 0 ∨ p ≠ 0
  · by_cases hset' : o ≠ 0 ∨ i ≠ 0 ∨ k ≠ 0
    · exact absurd (h.exclusive hset hset').2 (hok _)
    · have hunset : o = 0 ∧ i = 0 ∧ k = 0 := by omega
      by_cases hlimits : v ≤ 4095 ∧ p ≤ 7
      · obtain rfl := Except.ok.inj (h.dot1q hset hunset hlimits)
        obtain ⟨rfl, rfl, rfl⟩ := hunset
        exact ⟨rfl, rfl, hlimits⟩
      · exact absurd (h.dot1qLimits hset hunset hlimits) (hok _)
  · have hunset : v = 0 ∧ p = 0 := by omega
    by_cases houter : o = 0
    · by_cases hset' : i ≠ 0 ∨ k ≠ 0
      · exact absurd (h.outerZero hunset houter hset').2 (hok _)
      · have hunset' : o = 0 ∧ i = 0 ∧ k = 0 := by omega
        obtain rfl := Except.ok.inj (h.untagged hunset hunset')
        obtain ⟨rfl, rfl⟩ := hunset
        obtain ⟨rfl, rfl, rfl⟩ := hunset'
        exact ⟨rfl, rfl, trivial⟩
    · by_cases hlimits : o ≤ 4095 ∧ i ≤ 4095 ∧ k ≤ 7
      · obtain rfl := Except.ok.inj (h.qinq hunset houter hlimits)
        obtain ⟨rfl, rfl⟩ := hunset
        exact ⟨rfl, rfl, houter, hlimits⟩
      · exact absurd (h.qinqLimits hunset houter hlimits) (hok _)

/-- A malformed text of the first option is reported, else one of the second; fields that were read
are decided on by the table; and a tag that comes out carries the fields of both options as they
were given, within the limits. -/
theorem ofOptions_decides (d q : Option String) :
    ((∀ fields, ¬AsksDot1q d fields) → Fails (ofOptions d q) .format) ∧
      (∀ v p, AsksDot1q d (v, p) →
        ((∀ fields, ¬AsksQinq q fields) → Fails (ofOptions d q) .format) ∧
        ∀ o i k, AsksQinq q (o, i, k) → Decided v p o i k (ofOptions d q)) ∧
      ∀ tag, ofOptions d q = .ok tag →
        AsksDot1q d tag.dot1qFields ∧ AsksQinq q tag.qinqFields ∧ tag.WithinLimits := by
  refine ⟨fails_of_malformed_dot1q, ?_, ?_⟩
  · intro v p hd
    exact ⟨fails_of_malformed_qinq hd, fun o i k hq => decided_ofOptions hd hq⟩
  · intro tag h
    obtain ⟨v, p, o, i, k, hd, hq⟩ := exists_asks_of_ok h
    have hdecided := decided_ofOptions hd hq
    rw [h] at hdecided
    obtain ⟨hdot1q, hqinq, hlimits⟩ := hdecided.carried
    exact ⟨hdot1q ▸ hd, hqinq ▸ hq, hlimits⟩

/-- A tag beside a text of zeros, and a text that is malformed on either side. -/
theorem ofOptions_decides_each :
    (∀ fields, ¬AsksDot1q (some "1,2,3") fields) ∧
      Fails (ofOptions (some "1,2,3") (some "x")) .format ∧
      (∀ fields, ¬AsksQinq (some "1,") fields) ∧
      Fails (ofOptions (some "0") (some "1,")) .format ∧
      ofOptions (some " +100 , 3") (some "0") = .ok (.dot1q 100 3) ∧
      AsksDot1q (some " +100 , 3") (100, 3) ∧ AsksQinq (some "0") (0, 0, 0) ∧
      Decided 100 3 0 0 0 (ofOptions (some " +100 , 3") (some "0")) := by
  have hdot1q : ∀ fields, ¬AsksDot1q (some "1,2,3") fields := by
    rintro fields (_ | text)
    have hread : readDot1q "1,2,3" = .error (.field .dot1qTag "1,2,3") := by decide +kernel
    rw [readDot1q_eq_ok_iff.2 text] at hread
    cases hread
  have hqinq : ∀ fields, ¬AsksQinq (some "1,") fields := by
    rintro fields (_ | text)
    have hread : readQinq "1," = .error (.field .vlanId "") := by decide +kernel
    rw [readQinq_eq_ok_iff.2 text] at hread
    cases hread
  have hzero : AsksDot1q (some "0") (0, 0) := by
    have hread : readDot1q "0" = .ok (0, 0) := by decide +kernel
    exact .given (readDot1q_eq_ok_iff.1 hread)
  have hok : ofOptions (some " +100 , 3") (some "0") = .ok (.dot1q 100 3) := by decide +kernel
  obtain ⟨-, htable, hcarried⟩ := ofOptions_decides (some " +100 , 3") (some "0")
  obtain ⟨hd, hq, -⟩ := hcarried _ hok
  exact ⟨hdot1q, (ofOptions_decides _ (some "x")).1 hdot1q, hqinq,
    ((ofOptions_decides _ _).2.1 0 0 hzero).1 hqinq, hok, hd, hq, (htable 100 3 hd).2 0 0 0 hq⟩

end LoadBench.Tag

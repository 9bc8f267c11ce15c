import LoadBench.Proofs.Octets
import LoadBench.Proofs.Zmtp.Frame
import Mathlib.Tactic.SplitIfs

/-!
Where frames end.

Main statement: a frame that is written for a body is read back in front of anything. An input is
read exactly when the frame that its header declares is within the limit and stands there in full; a
header over the limit is refused, whatever stands behind it.
-/
namespace LoadBench.Zmtp
namespace Frame

/-- An input begins with flags and with the size of a body, in one octet or in eight, and `tail` is
what stands behind this header. -/
inductive Declares : List UInt8 → UInt8 → Nat → List UInt8 → Prop
  | short {flags size : UInt8} {tail : List UInt8} (is_short : flags &&& longFlag = 0) :
      Declares (flags :: size :: tail) flags size.toNat tail
  | long {flags : UInt8} {field tail : List UInt8} (is_long : flags &&& longFlag ≠ 0)
      (width : field.length = 8) :
      Declares (flags :: (field ++ tail)) flags
        (Nat.ofDigits 256 (field.map UInt8.toNat).reverse) tail

/-- A frame has a body and the flags for it: those for commands and for more frames as they were
asked for, the one for the long form where the body needs it, and no other. -/
structure Carries (f : Frame) (flags : UInt8) (body : List UInt8) : Prop where
  body_eq : f.body = body
  command : f.flags &&& commandFlag = flags &&& commandFlag
  more : f.flags &&& moreFlag = flags &&& moreFlag
  long : f.flags &&& longFlag = longFlag ↔ 255 < body.length
  no_other : f.flags &&& ~~~(commandFlag ||| moreFlag ||| longFlag) = 0

section
variable {input tail rest body : List UInt8} {flags : UInt8} {size : Nat} {f : Frame}

theorem lengthWidth_eq (flags : UInt8) :
    lengthWidth flags = if flags &&& longFlag = 0 then 1 else 8 := by
  unfold lengthWidth
  by_cases h : flags &&& longFlag = 0 <;> simp [h]

theorem declares_iff : Declares input flags size tail ↔
    ∃ field, input = flags :: (field ++ tail) ∧ field.length = lengthWidth flags ∧
      Octets.toNat field = size := by
  rw [lengthWidth_eq]
  constructor
  · rintro (⟨is_short⟩ | ⟨is_long, width⟩)
    · exact ⟨[_], rfl, by rw [if_pos is_short]; rfl, Octets.toNat_singleton _⟩
    · exact ⟨_, rfl, by rw [if_neg is_long, width], Octets.toNat_eq_ofDigits _⟩
  · rintro ⟨field, rfl, width, rfl⟩
    split_ifs at width with h
    · obtain ⟨o, rfl⟩ := List.length_eq_one_iff.1 width
      rw [Octets.toNat_singleton]
      exact .short h
    · rw [Octets.toNat_eq_ofDigits]
      exact .long h width

/-- With a header, the size decides. -/
theorem read_of_declares (h : Declares input flags size tail) :
    read input =
      if maxFrame < size then (.error (.frameTooLong size), tail)
      else if tail.length < size then (.error .disconnected, [])
      else (.ok ⟨flags, tail.take size⟩, tail.drop size) := by
  obtain ⟨field, rfl, width, rfl⟩ := declares_iff.1 h
  have hlong : ¬(field ++ tail).length < lengthWidth flags := by
    rw [List.length_append, width]
    omega
  rw [read, readBody, if_neg hlong]
  dsimp only
  rw [List.take_left' width, List.drop_left' width]

/-- An input without a whole header is used up. -/
theorem read_of_not_declares (h : ∀ flags size tail, ¬Declares input flags size tail) :
    read input = (.error .disconnected, []) := by
  cases input with
  | nil => rfl
  | cons flags input =>
    have hshort : input.length < lengthWidth flags := by
      by_contra hlong
      have hwidth : (input.take (lengthWidth flags)).length = lengthWidth flags :=
        List.length_take_of_le (Nat.not_lt.1 hlong)
      have hinput : input = input.take (lengthWidth flags) ++ input.drop (lengthWidth flags) :=
        (List.take_append_drop _ _).symm
      exact h _ _ _ (declares_iff.2 ⟨_, congrArg (flags :: ·) hinput, hwidth, rfl⟩)
    rw [read, readBody, if_pos hshort]

theorem read_eq_ok_iff : read input = (.ok f, rest) ↔
    Declares input f.flags f.body.length (f.body ++ rest) ∧ f.body.length ≤ maxFrame := by
  constructor
  · intro h
    by_cases hdeclares : ∃ flags size tail, Declares input flags size tail
    · obtain ⟨flags, size, tail, hheader⟩ := hdeclares
      rw [read_of_declares hheader] at h
      by_cases hlimit : maxFrame < size
      · rw [if_pos hlimit] at h
        cases h
      rw [if_neg hlimit] at h
      by_cases hcut : tail.length < size
      · rw [if_pos hcut] at h
        cases h
      rw [if_neg hcut] at h
      cases h
      dsimp only
      rw [List.length_take_of_le (Nat.not_lt.1 hcut), List.take_append_drop]
      exact ⟨hheader, Nat.not_lt.1 hlimit⟩
    · simp only [not_exists] at hdeclares
      rw [read_of_not_declares hdeclares] at h
      cases h
  · rintro ⟨hheader, hlimit⟩
    have hfull : ¬(f.body ++ rest).length < f.body.length := by
      rw [List.length_append]
      omega
    rw [read_of_declares hheader, if_neg (Nat.not_lt.2 hlimit), if_neg hfull, List.take_left,
      List.drop_left]

theorem exists_read_iff : (∃ f rest, read input = (.ok f, rest)) ↔
    ∃ flags size tail, Declares input flags size tail ∧ size ≤ maxFrame ∧ size ≤ tail.length := by
  constructor
  · rintro ⟨f, rest, h⟩
    obtain ⟨hheader, hlimit⟩ := read_eq_ok_iff.1 h
    refine ⟨_, _, _, hheader, hlimit, ?_⟩
    rw [List.length_append]
    omega
  · rintro ⟨flags, size, tail, hheader, hlimit, hfull⟩
    rw [read_of_declares hheader, if_neg (Nat.not_lt.2 hlimit), if_neg (Nat.not_lt.2 hfull)]
    exact ⟨_, _, rfl⟩

theorem carries_ofBody (flags : UInt8) (body : List UInt8) :
    (ofBody (flags &&& (moreFlag ||| commandFlag)) body).Carries flags body := by
  have masked : ∀ b, flags &&& (moreFlag ||| commandFlag) &&& b =
      flags &&& ((moreFlag ||| commandFlag) &&& b) := UInt8.and_assoc flags _
  unfold ofBody
  by_cases h : body.length ≤ 255
  · rw [if_pos h]
    refine ⟨rfl, masked _, masked _, ?_, (masked _).trans UInt8.and_zero⟩
    have hcleared : flags &&& (moreFlag ||| commandFlag) &&& longFlag = 0 :=
      (masked _).trans UInt8.and_zero
    dsimp only
    rw [hcleared]
    exact iff_of_false (by decide) (Nat.not_lt.2 h)
  · rw [if_neg h]
    refine ⟨rfl, ?_, ?_, ?_, ?_⟩ <;> dsimp only <;> rw [or_and_distrib, masked]
    · exact UInt8.or_zero
    · exact UInt8.or_zero
    · have hset : flags &&& ((moreFlag ||| commandFlag) &&& longFlag) ||| longFlag &&& longFlag =
          longFlag := by
        show flags &&& 0 ||| longFlag = longFlag
        rw [UInt8.and_zero, UInt8.zero_or]
      exact iff_of_true hset (Nat.not_le.1 h)
    · show flags &&& 0 ||| 0 = 0
      rw [UInt8.and_zero, UInt8.zero_or]

theorem hasRoom_ofBody (flags : UInt8) {body : List UInt8} (h : body.length ≤ maxFrame) :
    (ofBody (flags &&& (moreFlag ||| commandFlag)) body).HasRoom := by
  have hlong := (carries_ofBody flags body).long
  unfold HasRoom
  rw [lengthWidth_eq]
  show body.length < _
  split_ifs with hshort
  · rw [hshort] at hlong
    have hle : ¬255 < body.length := mt hlong.2 (by decide)
    exact Nat.lt_succ_of_le (Nat.not_lt.1 hle)
  · exact lt_of_le_of_lt h (by decide)

theorem read_encode (flags : UInt8) {body : List UInt8} (h : body.length ≤ maxFrame)
    (rest : List UInt8) : read (encode flags body ++ rest) =
      (.ok (ofBody (flags &&& (moreFlag ||| commandFlag)) body), rest) := by
  rw [encode_eq_wire_masked]
  exact read_wire_of_le (hasRoom_ofBody flags h) h rest

end

/-- A frame is written so that its end is known. It is read back in front of anything; an input is
read exactly when it begins with a frame of at most 16 MiB, and up to the end of that frame; and a
size over the limit is refused by the header alone. -/
theorem read_delimits :
    (∀ (flags : UInt8) (body rest : List UInt8), body.length ≤ maxFrame →
      ∃ f, read (encode flags body ++ rest) = (.ok f, rest) ∧ f.Carries flags body) ∧
    (∀ input, (∃ f rest, read input = (.ok f, rest)) ↔ ∃ flags size tail,
      Declares input flags size tail ∧ size ≤ maxFrame ∧ size ≤ tail.length) ∧
    (∀ input f rest, read input = (.ok f, rest) →
      Declares input f.flags f.body.length (f.body ++ rest)) ∧
    ∀ input flags size tail, Declares input flags size tail → maxFrame < size →
      read input = (.error (.frameTooLong size), tail) := by
  refine ⟨fun flags body rest h => ?_, fun input => exists_read_iff,
    fun input f rest h => (read_eq_ok_iff.1 h).1, fun input flags size tail h hlimit => ?_⟩
  · exact ⟨_, read_encode flags h rest, carries_ofBody flags body⟩
  · rw [read_of_declares h, if_pos hlimit]

/-- The shortest body in the long form, under flags that are all set, and a header that declares one
octet more than the limit. -/
theorem read_delimits_limits :
    (∃ f, read (encode 0xFF (List.replicate 256 0x61) ++ [0x62]) = (.ok f, [0x62]) ∧
      f.Carries 0xFF (List.replicate 256 0x61)) ∧
    read [longFlag, 0, 0, 0, 0, 1, 0, 0, 1] = (.error (.frameTooLong 16777217), []) := by
  obtain ⟨hencode, -, -, hover⟩ := read_delimits
  have hheader : Declares [longFlag, 0, 0, 0, 0, 1, 0, 0, 1] longFlag 16777217 [] :=
    @Declares.long longFlag [0, 0, 0, 0, 1, 0, 0, 1] [] (by decide) rfl
  have hbody : (List.replicate 256 (0x61 : UInt8)).length ≤ maxFrame := by
    rw [List.length_replicate]
    decide
  exact ⟨hencode 0xFF _ [0x62] hbody, hover _ _ _ _ hheader (by decide)⟩

end Frame

/-! ### Frames and messages at the beginning of an input -/

/-- An input begins with a whole frame of at most 16 MiB, and `rest` stands behind it. -/
def Frame.Leads (f : Frame) (input rest : List UInt8) : Prop :=
  Declares input f.flags f.body.length (f.body ++ rest) ∧ f.body.length ≤ Nat.pow 2 24

/-- An input begins with frames one behind another, and `rest` stands behind the last of them. -/
inductive Frame.LeadInTurn : List Frame → List UInt8 → List UInt8 → Prop
  | nil {input : List UInt8} : LeadInTurn [] input input
  | cons {f : Frame} {frames : List Frame} {input tail rest : List UInt8}
      (first : f.Leads input tail) (others : LeadInTurn frames tail rest) :
      LeadInTurn (f :: frames) input rest

/-- An input begins with a message of these parts, and `rest` stands behind it. -/
def Brings (input : List UInt8) (parts : List (List UInt8)) (rest : List UInt8) : Prop :=
  ∃ frames, IsMessage parts frames ∧ Frame.LeadInTurn frames input rest

section
variable {input rest : List UInt8} {f : Frame} {parts : List (List UInt8)}

/-- Of two frames that begin alike, the bodies begin alike. -/
theorem Frame.body_prefix_of_wire {f g : Frame} (h : f.wire <+: g.wire) : f.body <+: g.body := by
  unfold wire at h
  obtain ⟨hflags, behind, hbehind⟩ := List.cons_prefix_cons.1 h
  rw [hflags, List.append_assoc] at hbehind
  have hwidth : (Octets.ofNat (lengthWidth g.flags) f.body.length).length =
      (Octets.ofNat (lengthWidth g.flags) g.body.length).length := by
    rw [Octets.length_ofNat, Octets.length_ofNat]
  obtain ⟨-, hbody⟩ := List.append_inj hbehind hwidth
  exact ⟨behind, hbody⟩

theorem Frame.Declares.append {flags : UInt8} {size : Nat} {tail : List UInt8}
    (h : Declares input flags size tail) (more : List UInt8) :
    Declares (input ++ more) flags size (tail ++ more) := by
  obtain ⟨field, rfl, width, hsize⟩ := declares_iff.1 h
  refine declares_iff.2 ⟨field, ?_, width, hsize⟩
  rw [List.cons_append, List.append_assoc]

theorem Frame.leads_iff : f.Leads input rest ↔ Frame.read input = (.ok f, rest) :=
  read_eq_ok_iff.symm

theorem Frame.Leads.append (h : f.Leads input rest) (more : List UInt8) :
    f.Leads (input ++ more) (rest ++ more) := by
  obtain ⟨header, limit⟩ := h
  have hmore := header.append more
  rw [List.append_assoc] at hmore
  exact ⟨hmore, limit⟩

theorem Frame.LeadInTurn.append {frames : List Frame} (h : LeadInTurn frames input rest)
    (more : List UInt8) : LeadInTurn frames (input ++ more) (rest ++ more) := by
  induction h with
  | nil => exact .nil
  | cons first _ ih => exact .cons (first.append more) ih

/-- What stands behind a message does not matter to it. -/
theorem Brings.append (h : Brings input parts rest) (more : List UInt8) :
    Brings (input ++ more) parts (rest ++ more) := by
  obtain ⟨frames, hmessage, hframes⟩ := h
  exact ⟨frames, hmessage, hframes.append more⟩

theorem readMessage_of_leadInTurn {frames : List Frame} (hmessage : IsMessage parts frames)
    (hframes : Frame.LeadInTurn frames input rest) : readMessage input = (.ok parts, rest) := by
  induction hmessage generalizing input with
  | last data ends =>
    cases hframes with
    | cons first others =>
      cases others
      rw [readMessage_of_ok (Frame.leads_iff.1 first), data, ends]
      rfl
  | part data goes_on _ ih =>
    cases hframes with
    | cons first others =>
      rw [readMessage_of_ok (Frame.leads_iff.1 first), data, goes_on, ih others]
      rfl
  | command command _ ih =>
    cases hframes with
    | cons first others =>
      rw [readMessage_of_ok (Frame.leads_iff.1 first), command, if_pos rfl, ih others]

theorem brings_of_readMessage (h : readMessage input = (.ok parts, rest)) :
    Brings input parts rest := by
  induction input using readMessage.induct generalizing parts rest with
  | case1 input e tail he =>
    rw [readMessage_of_error he] at h
    cases h
  | case2 input f tail hf _ hcommand ih =>
    rw [readMessage_of_ok hf, if_pos hcommand] at h
    obtain ⟨frames, hmessage, hframes⟩ := ih h
    exact ⟨f :: frames, .command hcommand hmessage, .cons (Frame.leads_iff.2 hf) hframes⟩
  | case3 input f tail hf _ hcommand hmore result behind htail ih =>
    rw [readMessage_of_ok hf, if_neg hcommand, if_pos hmore, htail] at h
    have hdata := Bool.eq_false_iff.2 hcommand
    cases result with
    | error e => cases h
    | ok inner =>
      cases h
      obtain ⟨frames, hmessage, hframes⟩ := ih htail
      exact ⟨f :: frames, .part hdata hmore hmessage, .cons (Frame.leads_iff.2 hf) hframes⟩
  | case4 input f tail hf _ hcommand hmore =>
    rw [readMessage_of_ok hf, if_neg hcommand, if_neg hmore] at h
    have hdata := Bool.eq_false_iff.2 hcommand
    have hends := Bool.eq_false_iff.2 hmore
    cases h
    exact ⟨[f], .last hdata hends, .cons (Frame.leads_iff.2 hf) .nil⟩

theorem brings_iff : Brings input parts rest ↔ readMessage input = (.ok parts, rest) :=
  ⟨fun ⟨_, hmessage, hframes⟩ => readMessage_of_leadInTurn hmessage hframes, brings_of_readMessage⟩

end

end LoadBench.Zmtp

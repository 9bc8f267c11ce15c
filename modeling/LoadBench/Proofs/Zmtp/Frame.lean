import LoadBench.Zmtp.Frame
import Mathlib.Data.List.Basic

/-! Frames on the wire. Whatever form the flags announce, a frame is read back from its octets, and
the next frame begins where it ends. -/
namespace LoadBench.Zmtp
namespace Frame

/-- The octets of a frame. The flags say in how many octets the length is written. -/
def wire (f : Frame) : List UInt8 :=
  f.flags :: (Octets.ofNat (lengthWidth f.flags) f.body.length ++ f.body)

/-- The length can be written in the form that the flags announce. -/
def HasRoom (f : Frame) : Prop := f.body.length < Nat.pow 256 (lengthWidth f.flags)

instance (f : Frame) : Decidable f.HasRoom := inferInstanceAs (Decidable (_ < _))

/-- With a length that can be written, what is read depends on the limit alone. -/
theorem read_wire {f : Frame} (h : f.HasRoom) (rest : List UInt8) :
    read (f.wire ++ rest) =
      if f.body.length ≤ maxFrame then (.ok f, rest)
      else (.error (.frameTooLong f.body.length), f.body ++ rest) := by
  have hwidth := Octets.length_ofNat (lengthWidth f.flags) f.body.length
  have hsize : Octets.toNat (Octets.ofNat (lengthWidth f.flags) f.body.length) = f.body.length := by
    rw [Octets.toNat_ofNat]
    exact Nat.mod_eq_of_lt h
  have htake : (Octets.ofNat (lengthWidth f.flags) f.body.length ++ (f.body ++ rest)).take
      (lengthWidth f.flags) = Octets.ofNat (lengthWidth f.flags) f.body.length :=
    List.take_left' hwidth
  have hdrop : (Octets.ofNat (lengthWidth f.flags) f.body.length ++ (f.body ++ rest)).drop
      (lengthWidth f.flags) = f.body ++ rest :=
    List.drop_left' hwidth
  have hlong : ¬(Octets.ofNat (lengthWidth f.flags) f.body.length ++ (f.body ++ rest)).length <
      lengthWidth f.flags := by
    rw [List.length_append, hwidth]
    omega
  have henough : ¬(f.body ++ rest).length < f.body.length := by
    rw [List.length_append]
    omega
  unfold wire
  rw [List.cons_append, List.append_assoc, read, readBody, if_neg hlong]
  dsimp only
  rw [htake, hdrop, hsize, if_neg henough, List.take_left, List.drop_left]
  by_cases hlimit : f.body.length ≤ maxFrame
  · rw [if_neg (Nat.not_lt.2 hlimit), if_pos hlimit]
  · rw [if_pos (Nat.not_le.1 hlimit), if_neg hlimit]

theorem read_wire_of_le {f : Frame} (h : f.HasRoom) (hlimit : f.body.length ≤ maxFrame)
    (rest : List UInt8) : read (f.wire ++ rest) = (.ok f, rest) := by
  rw [read_wire h, if_pos hlimit]

theorem read_wire_of_lt {f : Frame} (h : f.HasRoom) (hlimit : maxFrame < f.body.length)
    (rest : List UInt8) :
    read (f.wire ++ rest) = (.error (.frameTooLong f.body.length), f.body ++ rest) := by
  rw [read_wire h, if_neg (Nat.not_le.2 hlimit)]

/-- The frame that is written for a body: the long form is used where the short one has no room. -/
def ofBody (flags : UInt8) (body : List UInt8) : Frame :=
  ⟨if body.length ≤ 255 then flags else flags ||| longFlag, body⟩

theorem or_and_distrib (a b c : UInt8) : (a ||| b) &&& c = a &&& c ||| b &&& c :=
  UInt8.toBitVec_inj.1 BitVec.and_or_distrib_right

/-- Of the flags that are asked for, those for commands and for more frames are kept. -/
theorem encode_eq_wire_masked (flags : UInt8) (body : List UInt8) :
    encode flags body = (ofBody (flags &&& (moreFlag ||| commandFlag)) body).wire := by
  have hcleared : flags &&& (moreFlag ||| commandFlag) &&& longFlag = 0 := by
    rw [UInt8.and_assoc]
    exact UInt8.and_zero
  have hset : (flags &&& (moreFlag ||| commandFlag) ||| longFlag) &&& longFlag = longFlag := by
    rw [or_and_distrib, hcleared]
    rfl
  unfold encode wire ofBody lengthWidth
  dsimp only
  split
  · rw [hcleared]
    rfl
  · rw [hset]
    rfl

theorem encode_eq_wire {flags : UInt8} (h : flags = 0 ∨ flags = moreFlag ∨ flags = commandFlag)
    (body : List UInt8) : encode flags body = (ofBody flags body).wire := by
  have hkept : flags &&& (moreFlag ||| commandFlag) = flags := by
    rcases h with rfl | rfl | rfl <;> decide
  rw [encode_eq_wire_masked, hkept]

end Frame

/-! ### Messages -/

/-- The frames of one message with its parts. Each part but the last announces more of them, and
commands may stand before any of them. -/
inductive IsMessage : List (List UInt8) → List Frame → Prop
  | last {f : Frame} (data : f.isCommand = false) (ends : f.hasMore = false) :
      IsMessage [f.body] [f]
  | part {f : Frame} {parts : List (List UInt8)} {frames : List Frame}
      (data : f.isCommand = false) (goes_on : f.hasMore = true) (rest : IsMessage parts frames) :
      IsMessage (f.body :: parts) (f :: frames)
  | command {f : Frame} {parts : List (List UInt8)} {frames : List Frame}
      (command : f.isCommand = true) (rest : IsMessage parts frames) :
      IsMessage parts (f :: frames)

theorem readMessage_of_ok {input rest : List UInt8} {f : Frame}
    (h : Frame.read input = (.ok f, rest)) :
    readMessage input =
      if f.isCommand then readMessage rest
      else if f.hasMore then
        ((readMessage rest).1.map (f.body :: ·), (readMessage rest).2)
      else (.ok [f.body], rest) := by
  rw [readMessage]
  split
  · rename_i he
    rw [h] at he
    cases he
  · rename_i hf
    rw [h] at hf
    cases hf
    rfl

theorem readMessage_of_error {input rest : List UInt8} {e : Error}
    (h : Frame.read input = (.error e, rest)) : readMessage input = (.error e, rest) := by
  rw [readMessage]
  split
  · rename_i he
    rw [h] at he
    cases he
    rfl
  · rename_i hf
    rw [h] at hf
    cases hf

/-- A message is read as its parts, and the input stands at what follows it. -/
theorem readMessage_wire {parts : List (List UInt8)} {frames : List Frame}
    (h : IsMessage parts frames) (hroom : ∀ f ∈ frames, f.HasRoom)
    (hlimit : ∀ f ∈ frames, f.body.length ≤ maxFrame) (rest : List UInt8) :
    readMessage (frames.flatMap Frame.wire ++ rest) = (.ok parts, rest) := by
  induction h with
  | @last f data ends =>
    have hread := Frame.read_wire_of_le (hroom f (by simp)) (hlimit f (by simp)) rest
    rw [List.flatMap_singleton, readMessage_of_ok hread, data, ends]
    rfl
  | @part f parts frames data goes_on _ ih =>
    have hread := Frame.read_wire_of_le (hroom f (by simp)) (hlimit f (by simp))
      (frames.flatMap Frame.wire ++ rest)
    have hrest := ih (fun g hg => hroom g (by simp [hg])) fun g hg => hlimit g (by simp [hg])
    rw [List.flatMap_cons, List.append_assoc, readMessage_of_ok hread, data, goes_on, hrest]
    rfl
  | @command f parts frames command _ ih =>
    have hread := Frame.read_wire_of_le (hroom f (by simp)) (hlimit f (by simp))
      (frames.flatMap Frame.wire ++ rest)
    have hrest := ih (fun g hg => hroom g (by simp [hg])) fun g hg => hlimit g (by simp [hg])
    rw [List.flatMap_cons, List.append_assoc, readMessage_of_ok hread, command, if_pos rfl,
      hrest]

/-- One frame over the limit spoils the message. -/
theorem readMessage_wire_of_oversized {parts : List (List UInt8)} {frames : List Frame}
    (h : IsMessage parts frames) (hroom : ∀ f ∈ frames, f.HasRoom)
    (hlimit : ∃ f ∈ frames, maxFrame < f.body.length) (rest : List UInt8) :
    ∃ size, (readMessage (frames.flatMap Frame.wire ++ rest)).1 = .error (.frameTooLong size) := by
  -- the first frame over the limit ends the reading
  have hfirst : ∀ f : Frame, f.HasRoom → maxFrame < f.body.length → ∀ input,
      ∃ size, (readMessage (f.wire ++ input)).1 = .error (.frameTooLong size) := by
    intro f hf hlong input
    rw [readMessage_of_error (Frame.read_wire_of_lt hf hlong input)]
    exact ⟨_, rfl⟩
  induction h with
  | @last f data ends =>
    obtain ⟨g, hg, hlong⟩ := hlimit
    rw [List.mem_singleton.1 hg] at hlong
    rw [List.flatMap_singleton]
    exact hfirst f (hroom f (by simp)) hlong rest
  | @part f parts frames data goes_on _ ih =>
    rw [List.flatMap_cons, List.append_assoc]
    by_cases hlong : maxFrame < f.body.length
    · exact hfirst f (hroom f (by simp)) hlong _
    · have htail := ((List.exists_mem_cons_iff _ _ _).1 hlimit).resolve_left hlong
      obtain ⟨size, hsize⟩ := ih (fun g hg => hroom g (by simp [hg])) htail
      have hread := Frame.read_wire_of_le (hroom f (by simp)) (Nat.not_lt.1 hlong)
        (frames.flatMap Frame.wire ++ rest)
      rw [readMessage_of_ok hread, data, goes_on]
      exact ⟨size, by simp [hsize, Except.map]⟩
  | @command f parts frames command _ ih =>
    rw [List.flatMap_cons, List.append_assoc]
    by_cases hlong : maxFrame < f.body.length
    · exact hfirst f (hroom f (by simp)) hlong _
    · have htail := ((List.exists_mem_cons_iff _ _ _).1 hlimit).resolve_left hlong
      have hread := Frame.read_wire_of_le (hroom f (by simp)) (Nat.not_lt.1 hlong)
        (frames.flatMap Frame.wire ++ rest)
      rw [readMessage_of_ok hread, command, if_pos rfl]
      exact ih (fun g hg => hroom g (by simp [hg])) htail

end LoadBench.Zmtp

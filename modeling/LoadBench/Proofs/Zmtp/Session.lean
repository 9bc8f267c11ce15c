import LoadBench.Zmtp.Socket
import LoadBench.Proofs.Zmtp.Frame

/-!
Whole conversations with a REP peer: a handshake, then any number of rounds.

Main statement: each request gets the body of its own reply, whatever commands and further parts
the peer sends around it. The limit on bodies is the only thing that can spoil this.
-/
namespace LoadBench.Zmtp

/-- A greeting that is accepted. It has 64 octets: the signature begins with 255 and ends with an
odd octet, the major version is 3 or later, and the mechanism is `NULL`, padded with zeros. No other
octet matters. -/
structure IsGreeting (peer : List UInt8) : Prop where
  full : peer.length = 64
  signature : peer[0]? = some 0xFF
  odd : ∃ o, peer[9]? = some o ∧ o.toNat % 2 = 1
  version : ∃ major, peer[10]? = some major ∧ 3 ≤ major.toNat
  mechanism : Utf8.encode "NULL" ++ List.replicate 16 0 <+: peer.drop 12

/-- A READY that is accepted: a command of this name, whatever its properties are. -/
structure IsReady (f : Frame) : Prop where
  command : f.isCommand = true
  name : 5 :: Utf8.encode "READY" <+: f.body

theorem and_one_eq_one_iff {o : UInt8} : o &&& 1 = 1 ↔ o.toNat % 2 = 1 := by
  rw [← UInt8.toNat_inj, UInt8.toNat_and, UInt8.toNat_one, Nat.and_one_is_mod]

theorem checkGreeting_eq_ok_iff {peer : List UInt8} :
    checkGreeting peer = .ok () ↔ (peer.headD 0 = 0xFF ∧ peer.getD 9 0 &&& 1 = 1) ∧
      ¬peer.getD 10 0 < 3 ∧
      (peer.drop 12).take 20 = Utf8.encode "NULL" ++ List.replicate 16 0 := by
  unfold checkGreeting
  constructor
  · intro h
    split at h
    · cases h
    rename_i hsignature
    split at h
    · cases h
    rename_i hversion
    split at h
    · cases h
    rename_i hmechanism
    exact ⟨by simpa using hsignature, hversion, by simpa using hmechanism⟩
  · rintro ⟨⟨hsignature, hodd⟩, hversion, hmechanism⟩
    rw [hsignature, hodd, if_neg (by decide), if_neg hversion, hmechanism, if_neg (by decide)]

/-- The check is made on 64 octets, and passes exactly for the greetings of this layout. -/
theorem isGreeting_iff {peer : List UInt8} :
    IsGreeting peer ↔ peer.length = greetingLength ∧ checkGreeting peer = .ok () := by
  have hprefix : Utf8.encode "NULL" ++ List.replicate 16 0 <+: peer.drop 12 ↔
      (peer.drop 12).take 20 = Utf8.encode "NULL" ++ List.replicate 16 0 := by
    have hlength : (Utf8.encode "NULL" ++ List.replicate 16 0).length = 20 := by decide
    rw [List.prefix_iff_eq_take, hlength, eq_comm]
  have hversion (o : UInt8) : ¬o < 3 ↔ 3 ≤ o.toNat := UInt8.not_lt
  rw [checkGreeting_eq_ok_iff, ← hprefix, and_one_eq_one_iff, hversion]
  constructor
  · rintro ⟨full, signature, ⟨final, hfinal, odd⟩, ⟨major, hmajor, version⟩, mechanism⟩
    rw [List.getD_eq_getElem?_getD, List.getD_eq_getElem?_getD, List.headD_eq_head?_getD,
      List.head?_eq_getElem?, signature, hfinal, hmajor]
    exact ⟨full, ⟨rfl, odd⟩, version, mechanism⟩
  · rintro ⟨full, ⟨signature, odd⟩, version, mechanism⟩
    have hlength : peer.length = 64 := full
    have hat (i : Nat) (hi : i < 64) : peer[i]? = some (peer.getD i 0) := by
      rw [List.getD_eq_getElem?_getD, List.getElem?_eq_getElem (hlength ▸ hi)]
      rfl
    have hhead : peer.headD 0 = peer.getD 0 0 := by
      rw [List.headD_eq_head?_getD, List.head?_eq_getElem?, List.getD_eq_getElem?_getD]
    exact ⟨full, by rw [hat 0 (by decide), ← hhead, signature], ⟨_, hat 9 (by decide), odd⟩,
      ⟨_, hat 10 (by decide), version⟩, mechanism⟩

theorem isReady_iff {f : Frame} : IsReady f ↔ checkReady f = .ok () := by
  unfold checkReady
  constructor
  · rintro ⟨command, name⟩
    rw [command, List.isPrefixOf_iff_prefix.2 name]
    rfl
  · intro h
    split at h
    · rename_i hready
      obtain ⟨command, name⟩ := Bool.and_eq_true_iff.1 hready
      exact ⟨command, List.isPrefixOf_iff_prefix.1 name⟩
    · split at h <;> cases h

/-- After a greeting that passes, the first frame decides. -/
theorem handshake_of_greeting {peer : List UInt8} (full : peer.length = greetingLength)
    (accepted : checkGreeting peer = .ok ()) (input : List UInt8) :
    handshake ⟨peer ++ input, []⟩ =
      ((Frame.read input).1.bind checkReady, ⟨(Frame.read input).2,
        greeting ++ (Frame.ofBody commandFlag (readyBody (Utf8.encode "REQ"))).wire⟩) := by
  have hlong : ¬(peer ++ input).length < greetingLength := by
    rw [List.length_append, full]
    omega
  unfold handshake Connection.write
  dsimp only
  rw [if_neg hlong, List.take_left' full, List.drop_left' full, accepted,
    ← Frame.encode_eq_wire (by simp)]
  rfl

/-- The request is written whatever the input is. -/
theorem request_eq (body input written : List UInt8) :
    request body ⟨input, written⟩ = ((readMessage input).1.bind replyBody,
      ⟨(readMessage input).2,
        written ++ ((Frame.ofBody moreFlag []).wire ++ (Frame.ofBody 0 body).wire)⟩) := by
  unfold request Connection.write
  dsimp only
  rw [Frame.encode_eq_wire (by simp), Frame.encode_eq_wire (by simp)]

/-- A request, and the frames of the message with which the peer answers it. -/
structure Round where
  request : List UInt8
  reply : List UInt8
  /-- The parts behind the body of the reply. -/
  extra : List (List UInt8)
  frames : List Frame
  message : IsMessage ([] :: reply :: extra) frames
  room : ∀ f ∈ frames, f.HasRoom

namespace Round

/-- What the peer sends. -/
def octets (r : Round) : List UInt8 := r.frames.flatMap Frame.wire

/-- What the client sends: an empty frame that announces more, and the frame of the request. -/
def written (r : Round) : List UInt8 :=
  (Frame.ofBody moreFlag []).wire ++ (Frame.ofBody 0 r.request).wire

/-- No frame is over the limit. -/
def IsWithin (r : Round) : Prop := ∀ f ∈ r.frames, f.body.length ≤ maxFrame

/-- The input is left at the next round, and nothing but the request is written. -/
theorem request_octets {r : Round} (h : r.IsWithin) (rest written : List UInt8) :
    Zmtp.request r.request ⟨r.octets ++ rest, written⟩ =
      (.ok r.reply, ⟨rest, written ++ r.written⟩) := by
  have hread : readMessage (r.octets ++ rest) = (.ok ([] :: r.reply :: r.extra), rest) :=
    readMessage_wire r.message r.room h rest
  rw [Zmtp.request_eq, hread]
  rfl

theorem isWithin_of_request {r : Round} {rest written reply : List UInt8}
    (h : (Zmtp.request r.request ⟨r.octets ++ rest, written⟩).1 = .ok reply) : r.IsWithin := by
  by_contra hnot
  have hlimit : ∃ f ∈ r.frames, maxFrame < f.body.length := by
    simpa [IsWithin] using hnot
  obtain ⟨size, hsize⟩ := readMessage_wire_of_oversized r.message r.room hlimit rest
  have hread : (readMessage (r.octets ++ rest)).1 = .error (.frameTooLong size) := hsize
  rw [Zmtp.request_eq] at h
  dsimp only at h
  rw [hread] at h
  cases h

end Round

/-- Send requests one after another. -/
def requests : List (List UInt8) → Connection → List (Except Error (List UInt8)) × Connection
  | [], c => ([], c)
  | body :: bodies, c =>
    let (reply, c) := request body c
    let (replies, c) := requests bodies c
    (reply :: replies, c)

theorem requests_rounds {rounds : List Round} (h : ∀ r ∈ rounds, r.IsWithin)
    (rest written : List UInt8) :
    requests (rounds.map Round.request) ⟨rounds.flatMap Round.octets ++ rest, written⟩ =
      (rounds.map fun r => .ok r.reply, ⟨rest, written ++ rounds.flatMap Round.written⟩) := by
  -- whatever stands behind a round is the input of the next one
  induction rounds generalizing written with
  | nil => simp [requests]
  | cons r rounds ih =>
    have hr := r.request_octets (h r (by simp)) (rounds.flatMap Round.octets ++ rest) written
    have hrest := ih (fun q hq => h q (by simp [hq])) (written ++ r.written)
    rw [List.map_cons, List.flatMap_cons, List.append_assoc, requests, hr]
    dsimp only
    rw [hrest, List.map_cons, List.flatMap_cons, List.append_assoc]

theorem isWithin_of_requests {rounds : List Round} {rest written : List UInt8}
    (h : (requests (rounds.map Round.request)
      ⟨rounds.flatMap Round.octets ++ rest, written⟩).1 = rounds.map fun r => .ok r.reply) :
    ∀ r ∈ rounds, r.IsWithin := by
  induction rounds generalizing written with
  | nil => simp
  | cons r rounds ih =>
    rw [List.map_cons, List.flatMap_cons, List.append_assoc, requests, List.map_cons] at h
    dsimp only at h
    obtain ⟨hhead, htail⟩ := List.cons.inj h
    have hr := Round.isWithin_of_request hhead
    rw [r.request_octets hr] at htail
    exact List.forall_mem_cons.2 ⟨hr, ih htail⟩

/-- What a peer sends from the first octet on, and the requests that it answers. -/
structure Conversation where
  greeting : List UInt8
  ready : Frame
  rounds : List Round
  full : greeting.length = greetingLength
  accepted : checkGreeting greeting = .ok ()
  command : ready.isCommand = true
  label : 5 :: Utf8.encode "READY" <+: ready.body
  room : ready.HasRoom

namespace Conversation

/-- What the peer sends. -/
def octets (s : Conversation) : List UInt8 :=
  s.greeting ++ (s.ready.wire ++ s.rounds.flatMap Round.octets)

/-- All frames that the peer sends. -/
def frames (s : Conversation) : List Frame := s.ready :: s.rounds.flatMap Round.frames

/-- What the client sends. -/
def written (s : Conversation) : List UInt8 :=
  Zmtp.greeting ++ (Frame.ofBody commandFlag (readyBody (Utf8.encode "REQ"))).wire ++
    s.rounds.flatMap Round.written

/-- The handshake succeeds, each request gets the body of its own reply, the peer's octets are read
up to `rest`, and nothing else is written. -/
def Succeeds (s : Conversation) (rest : List UInt8) : Prop :=
  ∃ c, handshake ⟨s.octets ++ rest, []⟩ = (.ok (), c) ∧
    requests (s.rounds.map Round.request) c =
      (s.rounds.map fun r => .ok r.reply, ⟨rest, s.written⟩)

theorem checkReady_eq (s : Conversation) : checkReady s.ready = .ok () := by
  have hlabel := List.isPrefixOf_iff_prefix.2 s.label
  rw [checkReady, s.command, hlabel]
  rfl

theorem handshake_of_within {s : Conversation} (h : s.ready.body.length ≤ maxFrame)
    (rest : List UInt8) :
    handshake ⟨s.octets ++ rest, []⟩ = (.ok (), ⟨s.rounds.flatMap Round.octets ++ rest,
      Zmtp.greeting ++ (Frame.ofBody commandFlag (readyBody (Utf8.encode "REQ"))).wire⟩) := by
  rw [octets, List.append_assoc, List.append_assoc, handshake_of_greeting s.full s.accepted,
    Frame.read_wire_of_le s.room h]
  dsimp only
  rw [Except.bind, s.checkReady_eq]

theorem within_of_handshake {s : Conversation} {rest : List UInt8}
    (h : (handshake ⟨s.octets ++ rest, []⟩).1 = .ok ()) : s.ready.body.length ≤ maxFrame := by
  by_contra hnot
  rw [octets, List.append_assoc, List.append_assoc, handshake_of_greeting s.full s.accepted,
    Frame.read_wire_of_lt s.room (Nat.not_le.1 hnot)] at h
  cases h

theorem within_frames_iff (s : Conversation) :
    (∀ f ∈ s.frames, f.body.length ≤ maxFrame) ↔
      s.ready.body.length ≤ maxFrame ∧ ∀ r ∈ s.rounds, r.IsWithin := by
  simp only [frames, Round.IsWithin, List.forall_mem_cons, List.forall_mem_flatMap]

theorem within_of_succeeds {s : Conversation} {rest : List UInt8} (h : s.Succeeds rest) :
    ∀ f ∈ s.frames, f.body.length ≤ maxFrame := by
  obtain ⟨c, hshake, hrequests⟩ := h
  have hready : s.ready.body.length ≤ maxFrame := within_of_handshake (congrArg Prod.fst hshake)
  obtain ⟨-, rfl⟩ := Prod.mk.inj ((handshake_of_within hready rest).symm.trans hshake)
  have hrounds := isWithin_of_requests (congrArg Prod.fst hrequests)
  exact s.within_frames_iff.2 ⟨hready, hrounds⟩

theorem succeeds_of_within {s : Conversation} (h : ∀ f ∈ s.frames, f.body.length ≤ maxFrame)
    (rest : List UInt8) : s.Succeeds rest := by
  obtain ⟨hready, hrounds⟩ := s.within_frames_iff.1 h
  refine ⟨_, handshake_of_within hready rest, ?_⟩
  rw [requests_rounds hrounds, written]

/-- A conversation of any length goes through as it should, in front of any further octets, exactly
when no frame of the peer is over the limit. -/
theorem succeeds_iff (s : Conversation) (rest : List UInt8) :
    s.Succeeds rest ↔ ∀ f ∈ s.frames, f.body.length ≤ maxFrame :=
  ⟨within_of_succeeds, fun h => succeeds_of_within h rest⟩

/-- A peer whose greeting is the client's own, and that announces no properties. -/
def plain (rounds : List Round) : Conversation where
  greeting := Zmtp.greeting
  ready := ⟨commandFlag, 5 :: Utf8.encode "READY"⟩
  rounds := rounds
  full := by decide
  accepted := by decide
  command := by decide
  label := List.prefix_rfl
  room := by decide

/-- A command in the middle of a message, a short part in the long form and a part behind it; then
a reply without any octets. -/
def interrupted : Conversation := plain [
  { request := [0x3F]
    reply := [0x21]
    extra := [[0x2E]]
    frames := [⟨moreFlag, []⟩, ⟨commandFlag, [0]⟩, ⟨moreFlag ||| longFlag, [0x21]⟩, ⟨0, [0x2E]⟩]
    message := by
      apply IsMessage.part (f := ⟨moreFlag, []⟩) (by decide) (by decide)
      apply IsMessage.command (by decide)
      apply IsMessage.part (f := ⟨moreFlag ||| longFlag, [0x21]⟩) (by decide) (by decide)
      exact .last (f := ⟨0, [0x2E]⟩) (by decide) (by decide)
    room := by decide },
  { request := []
    reply := []
    extra := []
    frames := [⟨moreFlag, []⟩, ⟨0, []⟩]
    message := by
      apply IsMessage.part (f := ⟨moreFlag, []⟩) (by decide) (by decide)
      exact .last (f := ⟨0, []⟩) (by decide) (by decide)
    room := by decide }]

theorem succeeds_interrupted :
    (∀ f ∈ interrupted.frames, f.body.length ≤ maxFrame) ∧ interrupted.Succeeds [0xFF] := by
  have hlimit : ∀ f ∈ interrupted.frames, f.body.length ≤ maxFrame := by decide
  exact ⟨hlimit, (succeeds_iff interrupted [0xFF]).2 hlimit⟩

/-- A part that is one octet over the limit. -/
def oversizedPart : Frame := ⟨longFlag, List.replicate (maxFrame + 1) 0x61⟩

theorem length_oversizedPart : oversizedPart.body.length = 0x1000001 := List.length_replicate

/-- One round: behind the reply comes a part over the limit. -/
def overfull : Conversation := plain [
  { request := [0x3F]
    reply := [0x21]
    extra := [oversizedPart.body]
    frames := [⟨moreFlag, []⟩, ⟨moreFlag, [0x21]⟩, oversizedPart]
    message := by
      have hlast : IsMessage [oversizedPart.body] [oversizedPart] := .last (by decide) (by decide)
      apply IsMessage.part (f := ⟨moreFlag, []⟩) (by decide) (by decide)
      exact .part (f := ⟨moreFlag, [0x21]⟩) (by decide) (by decide) hlast
    room := by
      have hlarge : oversizedPart.HasRoom := by
        rw [Frame.HasRoom, length_oversizedPart]
        decide
      have hsmall : ∀ f ∈ [(⟨moreFlag, []⟩ : Frame), ⟨moreFlag, [0x21]⟩], f.HasRoom := by decide
      simpa [hlarge] using hsmall }]

/-- Request, reply and commands are within the limit, but the parts behind the reply are read as
well. -/
theorem not_succeeds_overfull :
    (∀ r ∈ overfull.rounds, r.request.length ≤ maxFrame ∧ r.reply.length ≤ maxFrame) ∧
      (∀ f ∈ overfull.frames, f.isCommand = true → f.body.length ≤ maxFrame) ∧
      ¬overfull.Succeeds [] := by
  have hready : overfull.ready.body.length ≤ maxFrame := by decide
  have hframes : overfull.rounds.flatMap Round.frames = [⟨moreFlag, []⟩, ⟨moreFlag, [0x21]⟩,
      oversizedPart] := rfl
  refine ⟨by decide, ?_, ?_⟩
  · -- of all frames only READY is a command
    rw [frames, List.forall_mem_cons, hframes]
    exact ⟨fun _ => hready, by decide⟩
  · intro hsucceeds
    have hpart : oversizedPart ∈ overfull.frames := by simp [frames, hframes]
    have hlimit := within_of_succeeds hsucceeds oversizedPart hpart
    rw [length_oversizedPart] at hlimit
    exact absurd hlimit (by decide)

end Conversation
end LoadBench.Zmtp

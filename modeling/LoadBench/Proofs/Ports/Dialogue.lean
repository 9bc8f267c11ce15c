import LoadBench.Ports.Trex
import LoadBench.Proofs.Fallible
import LoadBench.Proofs.Json.Members
import LoadBench.Proofs.Json.Prefix
import LoadBench.Proofs.Json.Shuffled
import LoadBench.Proofs.Zmtp.Delimiting
import LoadBench.Proofs.Zmtp.Session

/-!
What is written to a TRex server, whatever it answers.

Main statement: the octets of each stage are written exactly when the answers have come that lead to
it, and the handle of the first reply is the one that the second request has. An error in a reply
ends the dialogue with its code and reason.
-/
namespace LoadBench.Trex

open Json (Tree Value)
open Zmtp (Frame moreFlag commandFlag)

/-- What is written at the opening of a connection, and then after each answer. -/
inductive Stage
  | greeting
  | ready
  | sync
  | info (handle : String)

/-- READY as a frame. -/
def readyCommand : List UInt8 := Frame.wire ⟨commandFlag, Zmtp.readyBody (Utf8.encode "REQ")⟩

/-- A request as a message: an empty frame that announces another, and a frame with the text. -/
def messageOf (request : Tree) : List UInt8 :=
  Frame.wire ⟨moreFlag, []⟩ ++ (Frame.ofBody 0 request.print).wire

/-- All that is written up to a stage. -/
def Stage.written : Stage → List UInt8
  | greeting => Zmtp.greeting
  | ready => Zmtp.greeting ++ readyCommand
  | sync => Zmtp.greeting ++ readyCommand ++ messageOf syncRequest
  | info handle =>
    Zmtp.greeting ++ readyCommand ++ messageOf syncRequest ++ messageOf (infoRequest handle)

/-- A message that has this body behind an empty delimiter. -/
def Replies (input body rest : List UInt8) : Prop :=
  ∃ extra, Zmtp.Brings input ([] :: body :: extra) rest

/-- A well-formed reply that has a result and no error. An error that is `null` is none. -/
inductive Accepts (body : List UInt8) (result : Value) : Prop
  | intro {reply value : Tree} {field : String → Option Tree}
      (parsed : Tree.parse? body = some reply)
      (fields : reply.record? ["result", "error"] = some field)
      (has_result : field "result" = some value) (present : value.isNull = false)
      (decoded : value.value? (Json.maxLevels - 1) = some result)
      (no_error : field "error" = none ∨ field "error" = some .null)

/-- A well-formed reply that has an error, whatever else it has. -/
def Refuses (body : List UInt8) (code : Int) (reason : String) : Prop :=
  ∃ result, (Tree.parse? body).bind Reply.ofJson? = some ⟨result, some (code, reason)⟩

/-- The result of the first call has a string under `api_h`. -/
def HasHandle (result : Value) (handle : String) : Prop :=
  ∃ members, result = .map members ∧ members.lookup "api_h" = some (.text handle)

/-- The answers have come that lead to a stage, and `rest` stands behind them. -/
inductive Reaches (incoming : List UInt8) : Stage → List UInt8 → Prop
  | connected : Reaches incoming .greeting incoming
  | greeted {peer rest : List UInt8} (octets : incoming = peer ++ rest)
      (accepted : Zmtp.IsGreeting peer) : Reaches incoming .ready rest
  | opened {input rest : List UInt8} {f : Frame} (before : Reaches incoming .ready input)
      (frame : f.Leads input rest) (accepted : Zmtp.IsReady f) : Reaches incoming .sync rest
  | synced {input body rest : List UInt8} {result : Value} {handle : String}
      (before : Reaches incoming .sync input) (replies : Replies input body rest)
      (accepts : Accepts body result) (has_handle : HasHandle result handle) :
      Reaches incoming (.info handle) rest

/-- A text with a call: its members, and nothing else. -/
def IsCall (body : List UInt8) (id : Int) (method : String) (params : List (String × Value)) :
    Prop :=
  (Tree.parse? body).bind (Tree.value? Json.maxLevels) = some (.map [("id", .int id),
    ("jsonrpc", .text "2.0"), ("method", .text method), ("params", .map params)])

/-! ### Requests -/

section
variable {incoming input rest body : List UInt8} {stage : Stage} {handle : String} {result : Value}

theorem written_requestJson {id : Nat} {method : String} {params : Tree} (h : params.Written) :
    (requestJson id method params).Written := by
  apply Tree.written_record
  simp [Tree.written_ofText, Tree.written_ofNat, h]

theorem written_infoRequest (handle : String) : (infoRequest handle).Written :=
  written_requestJson (Tree.written_record (by simp [Tree.written_ofText]))

theorem isCall_print (id : UInt32) (method : String) {params : Tree}
    {values : List (String × Value)} (h : params.Written)
    (hvalue : params.value? (Json.maxLevels - 1) = some (.map values)) :
    IsCall (requestJson id.toNat method params).print id.toNat method values := by
  have hmembers : (requestJson id.toNat method params).value? Json.maxLevels =
      some (.map (Value.sorted [("id", .int id.toNat), ("jsonrpc", .text "2.0"),
        ("method", .text method), ("params", .map values)])) := by
    rw [requestJson, Json.record_eq, Tree.value?, if_neg (by decide)]
    simp [Json.memberValues?, Tree.value?_ofNat, Tree.value?_ofText, hvalue]
  rw [IsCall, Tree.parse?_print (written_requestJson h), Option.bind_some, hmembers]
  rfl

theorem isCall_syncRequest : IsCall syncRequest.print 1 "api_sync_v2"
    [("major", .int 5), ("minor", .int 1), ("name", .text "STL")] := by
  have hmajor : (Tree.ofNat 5).value? 125 = some (.int 5) := Tree.value?_ofNat 125 5
  have hminor : (Tree.ofNat 1).value? 125 = some (.int 1) := Tree.value?_ofNat 125 1
  apply isCall_print 1
  · exact Tree.written_record (by simp [Tree.written_ofText, Tree.written_ofNat])
  · rw [Json.record_eq, Tree.value?, if_neg (by decide)]
    simp [Json.memberValues?, Json.maxLevels, Tree.value?_ofText, hmajor, hminor]
    rfl

theorem value?_handle (handle : String) :
    (Tree.record [("api_h", .ofText handle)]).value? (Json.maxLevels - 1) =
      some (.map [("api_h", .text handle)]) := by
  rw [Json.record_eq, Tree.value?, if_neg (by decide)]
  simp [Json.memberValues?, Tree.value?_ofText]
  rfl

/-- The text of the second request has the handle, whatever characters are in it. -/
theorem isCall_infoRequest (handle : String) :
    IsCall (infoRequest handle).print 2 "get_system_info" [("api_h", .text handle)] :=
  isCall_print 2 _ (Tree.written_record (by simp [Tree.written_ofText])) (value?_handle handle)

/-- No request is written as the beginning of another one. -/
theorem eq_of_prefix_messageOf {handle handle' : String}
    (h : messageOf (infoRequest handle) <+: messageOf (infoRequest handle')) :
    handle = handle' := by
  have hwire := (List.prefix_append_right_inj _).1 h
  have hprint : (infoRequest handle).print <+: (infoRequest handle').print :=
    Frame.body_prefix_of_wire hwire
  have hrequest := Tree.eq_of_print_prefix (written_infoRequest handle)
    (written_infoRequest handle') (fun n hn => nomatch hn) hprint
  have hcall := isCall_infoRequest handle
  rw [hrequest, IsCall, isCall_infoRequest handle'] at hcall
  simpa using hcall.symm

/-! ### Stages -/

theorem Stage.greeting_prefix_ready : greeting.written <+: ready.written := List.prefix_append _ _

theorem Stage.ready_prefix_sync : ready.written <+: sync.written := List.prefix_append _ _

theorem Stage.sync_prefix_info (handle : String) : sync.written <+: (info handle).written :=
  List.prefix_append _ _

theorem Stage.greeting_prefix_sync : greeting.written <+: sync.written :=
  greeting_prefix_ready.trans ready_prefix_sync

/-- Every stage is on the way to a second request. -/
theorem Stage.exists_prefix_info (stage : Stage) :
    ∃ handle, stage.written <+: (info handle).written := by
  cases stage with
  | greeting => exact ⟨"", greeting_prefix_sync.trans (sync_prefix_info "")⟩
  | ready => exact ⟨"", ready_prefix_sync.trans (sync_prefix_info "")⟩
  | sync => exact ⟨"", sync_prefix_info ""⟩
  | info handle => exact ⟨handle, List.prefix_refl _⟩

/-- Something is written at each stage. -/
theorem Stage.length_written_lt : greeting.written.length < ready.written.length ∧
    ready.written.length < sync.written.length ∧
    ∀ handle, sync.written.length < (info handle).written.length := by
  have longer : ∀ (before : List UInt8) {more : List UInt8}, more ≠ [] →
      before.length < (before ++ more).length := by
    intro before more hmore
    rw [List.length_append]
    exact Nat.lt_add_of_pos_right (List.length_pos_iff.2 hmore)
  exact ⟨longer _ (List.cons_ne_nil _ _), longer _ (List.cons_ne_nil _ _),
    fun handle => longer _ (List.cons_ne_nil _ _)⟩

theorem Stage.eq_of_prefix_greeting (h : stage.written <+: Stage.greeting.written) :
    stage = .greeting := by
  have hlength := h.length_le
  obtain ⟨hready, hsync, hinfo⟩ := Stage.length_written_lt
  cases stage with
  | greeting => rfl
  | ready => omega
  | sync => omega
  | info handle =>
    have hinfo := hinfo handle
    omega

theorem Stage.eq_or_prefix_of_ready (h : stage.written <+: Stage.ready.written) :
    stage = .ready ∨ stage.written <+: Stage.greeting.written := by
  have hlength := h.length_le
  obtain ⟨hready, hsync, hinfo⟩ := Stage.length_written_lt
  cases stage with
  | greeting => exact .inr (List.prefix_refl _)
  | ready => exact .inl rfl
  | sync => omega
  | info handle =>
    have hinfo := hinfo handle
    omega

theorem Stage.eq_or_prefix_of_sync (h : stage.written <+: Stage.sync.written) :
    stage = .sync ∨ stage.written <+: Stage.ready.written := by
  have hlength := h.length_le
  obtain ⟨hready, hsync, hinfo⟩ := Stage.length_written_lt
  cases stage with
  | greeting => exact .inr Stage.greeting_prefix_ready
  | ready => exact .inr (List.prefix_refl _)
  | sync => exact .inl rfl
  | info handle =>
    have hinfo := hinfo handle
    omega

theorem Stage.eq_or_prefix_of_info (h : stage.written <+: (Stage.info handle).written) :
    stage = .info handle ∨ stage.written <+: Stage.sync.written := by
  cases stage with
  | greeting => exact .inr Stage.greeting_prefix_sync
  | ready => exact .inr Stage.ready_prefix_sync
  | sync => exact .inr (List.prefix_refl _)
  | info handle' =>
    have hmessage := (List.prefix_append_right_inj _).1 h
    rw [eq_of_prefix_messageOf hmessage]
    exact .inl rfl

/-- A stage is reached by way of the stages before it. -/
theorem Reaches.of_prefix {last : Stage} (h : Reaches incoming last rest)
    (hp : stage.written <+: last.written) : ∃ rest, Reaches incoming stage rest := by
  induction h with
  | connected =>
    rw [Stage.eq_of_prefix_greeting hp]
    exact ⟨_, .connected⟩
  | greeted octets accepted =>
    rcases Stage.eq_or_prefix_of_ready hp with rfl | hp
    · exact ⟨_, .greeted octets accepted⟩
    · rw [Stage.eq_of_prefix_greeting hp]
      exact ⟨_, .connected⟩
  | opened before frame accepted ih =>
    rcases Stage.eq_or_prefix_of_sync hp with rfl | hp
    · exact ⟨_, .opened before frame accepted⟩
    · exact ih hp
  | synced before replies accepts has_handle ih =>
    rcases Stage.eq_or_prefix_of_info hp with rfl | hp
    · exact ⟨_, .synced before replies accepts has_handle⟩
    · exact ih hp

/-- What comes later does not take a stage back. -/
theorem Reaches.append (h : Reaches incoming stage rest) (more : List UInt8) :
    Reaches (incoming ++ more) stage (rest ++ more) := by
  induction h with
  | connected => exact .connected
  | greeted octets accepted => exact .greeted (by rw [octets, List.append_assoc]) accepted
  | opened before frame accepted ih => exact .opened ih (frame.append more) accepted
  | synced before replies accepts has_handle ih =>
    obtain ⟨extra, hextra⟩ := replies
    exact .synced ih ⟨extra, hextra.append more⟩ accepts has_handle

/-! ### Replies -/

theorem optional?_eq_some_none_iff {α : Type} {read : Tree → Option α} {t : Option Tree} :
    optional? read t = some none ↔ t = none ∨ t = some .null := by
  rcases t with _ | (_ | _ | _ | _ | _ | _) <;> simp [optional?, Tree.isNull]

theorem optional?_eq_some_some_iff {α : Type} {read : Tree → Option α} {t : Option Tree} {a : α} :
    optional? read t = some (some a) ↔
      ∃ value, t = some value ∧ value.isNull = false ∧ read value = some a := by
  cases t with
  | none => simp [optional?]
  | some value => cases hnull : value.isNull <;> simp [optional?, hnull]

/-- Both fields of a reply are read, each by itself. -/
theorem ofJson?_eq_some_iff {t : Tree} {reply : Reply} :
    Reply.ofJson? t = some reply ↔ ∃ field, t.record? ["result", "error"] = some field ∧
      optional? (Tree.value? (Json.maxLevels - 1)) (field "result") = some reply.result ∧
      optional? errorOfJson? (field "error") = some reply.error := by
  unfold Reply.ofJson?
  constructor
  · intro h
    obtain ⟨field, hfield, h⟩ := Option.bind_eq_some_iff.1 h
    obtain ⟨result, hresult, h⟩ := Option.bind_eq_some_iff.1 h
    obtain ⟨error, herror, h⟩ := Option.bind_eq_some_iff.1 h
    cases h
    exact ⟨field, hfield, hresult, herror⟩
  · rintro ⟨field, hfield, hresult, herror⟩
    rw [hfield, Option.bind_eq_bind, Option.bind_some, hresult, Option.bind_eq_bind,
      Option.bind_some, herror]
    rfl

theorem accepts_iff : Accepts body result ↔
    (Tree.parse? body).bind Reply.ofJson? = some ⟨some result, none⟩ := by
  simp only [Option.bind_eq_some_iff, ofJson?_eq_some_iff]
  constructor
  · rintro ⟨parsed, fields, has_result, present, decoded, no_error⟩
    exact ⟨_, parsed, _, fields,
      optional?_eq_some_some_iff.2 ⟨_, has_result, present, decoded⟩,
      optional?_eq_some_none_iff.2 no_error⟩
  · rintro ⟨reply, parsed, field, fields, hresult, herror⟩
    obtain ⟨value, has_result, present, decoded⟩ := optional?_eq_some_some_iff.1 hresult
    exact ⟨parsed, fields, has_result, present, decoded, optional?_eq_some_none_iff.1 herror⟩

theorem resultOf_eq_ok_iff {method : String} :
    resultOf method body = .ok result ↔ Accepts body result := by
  rw [accepts_iff, resultOf]
  cases (Tree.parse? body).bind Reply.ofJson? with
  | none => simp
  | some reply =>
    obtain ⟨_ | value, _ | ⟨code, reason⟩⟩ := reply <;> simp

theorem handleOf_eq_ok_iff : handleOf result = .ok handle ↔ HasHandle result handle := by
  cases result with
  | map members =>
    have hmember : (members.lookup "api_h").bind Value.text? = some handle ↔
        members.lookup "api_h" = some (.text handle) := by
      simp only [Option.bind_eq_some_iff, Value.text?_eq_some_iff, exists_eq_right]
    rw [handleOf, elim_eq_ok_iff, hmember]
    simp [HasHandle]
  | _ => simp [handleOf, HasHandle]

/-! ### The dialogue, stage by stage -/

theorem handshake_of_greeted (h : Reaches incoming .ready input) :
    Zmtp.handshake ⟨incoming, []⟩ = ((Frame.read input).1.bind Zmtp.checkReady,
      ⟨(Frame.read input).2, Stage.ready.written⟩) := by
  cases h with
  | greeted octets accepted =>
    obtain ⟨full, passes⟩ := Zmtp.isGreeting_iff.1 accepted
    rw [octets, Zmtp.handshake_of_greeting full passes]
    rfl

theorem handshake_of_opened (h : Reaches incoming .sync input) :
    Zmtp.handshake ⟨incoming, []⟩ = (.ok (), ⟨input, Stage.ready.written⟩) := by
  cases h with
  | opened before frame accepted =>
    rw [handshake_of_greeted before, Frame.leads_iff.1 frame]
    dsimp only
    rw [Except.bind, Zmtp.isReady_iff.1 accepted]

theorem handshake_of_not_greeted (h : ∀ rest, ¬Reaches incoming .ready rest) :
    ∃ e rest, Zmtp.handshake ⟨incoming, []⟩ = (.error e, ⟨rest, Stage.greeting.written⟩) := by
  unfold Zmtp.handshake Zmtp.Connection.write
  dsimp only
  by_cases hshort : incoming.length < Zmtp.greetingLength
  · rw [if_pos hshort]
    exact ⟨_, _, rfl⟩
  · rw [if_neg hshort]
    cases hcheck : Zmtp.checkGreeting (incoming.take Zmtp.greetingLength) with
    | error e => exact ⟨_, _, rfl⟩
    | ok _ =>
      have hfull : (incoming.take Zmtp.greetingLength).length = Zmtp.greetingLength :=
        List.length_take_of_le (Nat.not_lt.1 hshort)
      have hgreeting := Zmtp.isGreeting_iff.2 ⟨hfull, hcheck⟩
      exact absurd (.greeted (List.take_append_drop _ _).symm hgreeting) (h _)

theorem handshake_of_not_opened (hgreeted : Reaches incoming .ready input)
    (h : ∀ rest, ¬Reaches incoming .sync rest) :
    ∃ e rest, Zmtp.handshake ⟨incoming, []⟩ = (.error e, ⟨rest, Stage.ready.written⟩) := by
  rw [handshake_of_greeted hgreeted]
  cases hread : Frame.read input with
  | mk frame rest =>
    cases frame with
    | error e => exact ⟨_, _, rfl⟩
    | ok f =>
      dsimp only
      rw [Except.bind]
      cases hcheck : Zmtp.checkReady f with
      | error e => exact ⟨_, _, rfl⟩
      | ok _ =>
        have hready := Zmtp.isReady_iff.2 hcheck
        exact absurd (.opened hgreeted (Frame.leads_iff.2 hread) hready) (h rest)

theorem replyBody_eq_ok {parts : List (List UInt8)} (h : Zmtp.replyBody parts = .ok body) :
    ∃ extra, parts = [] :: body :: extra := by
  unfold Zmtp.replyBody at h
  split at h
  · cases h
    exact ⟨_, rfl⟩
  · cases h
  · cases h

section
variable {method : String} {request : Tree} {written : List UInt8}

theorem call_eq (method : String) (request : Tree) (input written : List UInt8) :
    call method request ⟨input, written⟩ =
      ((((Zmtp.readMessage input).1.bind Zmtp.replyBody).mapError .transport).bind
        (resultOf method), ⟨(Zmtp.readMessage input).2, written ++ messageOf request⟩) := by
  unfold call
  rw [Zmtp.request_eq]
  rfl

/-- The request is written in any case. -/
theorem snd_call (method : String) (request : Tree) (input written : List UInt8) :
    (call method request ⟨input, written⟩).2 =
      ⟨(Zmtp.readMessage input).2, written ++ messageOf request⟩ := by
  rw [call_eq]

theorem call_of_replies (h : Replies input body rest) :
    call method request ⟨input, written⟩ =
      (resultOf method body, ⟨rest, written ++ messageOf request⟩) := by
  obtain ⟨extra, hextra⟩ := h
  rw [call_eq, Zmtp.brings_iff.1 hextra]
  rfl

theorem resultOf_of_refuses {code : Int} {reason : String} (h : Refuses body code reason) :
    resultOf method body = .error (.refused method code reason) := by
  obtain ⟨result, hreply⟩ := h
  unfold resultOf
  rw [hreply]

/-- A call gets a result only from a reply that is accepted. -/
theorem accepts_of_call (h : (call method request ⟨input, written⟩).1 = .ok result) :
    ∃ body, Replies input body (Zmtp.readMessage input).2 ∧ Accepts body result := by
  rw [call_eq] at h
  obtain ⟨body, hbody, hresult⟩ := bind_eq_ok h
  obtain ⟨parts, hparts, hbody⟩ := bind_eq_ok (mapError_eq_ok_iff.1 hbody)
  obtain ⟨extra, rfl⟩ := replyBody_eq_ok hbody
  have hmessage := Zmtp.brings_iff.2 (Prod.ext hparts rfl)
  exact ⟨body, ⟨extra, hmessage⟩, resultOf_eq_ok_iff.1 hresult⟩

end

section
variable (indices : List UInt32)

theorem dialogue_of_not_greeted (h : ∀ rest, ¬Reaches incoming .ready rest) :
    ∃ e rest, dialogue indices ⟨incoming, []⟩ = (.error e, ⟨rest, Stage.greeting.written⟩) := by
  obtain ⟨e, rest, hshake⟩ := handshake_of_not_greeted h
  unfold dialogue
  rw [hshake]
  exact ⟨_, _, rfl⟩

theorem dialogue_of_not_opened (hgreeted : Reaches incoming .ready input)
    (h : ∀ rest, ¬Reaches incoming .sync rest) :
    ∃ e rest, dialogue indices ⟨incoming, []⟩ = (.error e, ⟨rest, Stage.ready.written⟩) := by
  obtain ⟨e, rest, hshake⟩ := handshake_of_not_opened hgreeted h
  unfold dialogue
  rw [hshake]
  exact ⟨_, _, rfl⟩

theorem dialogue_of_not_synced (hopened : Reaches incoming .sync input)
    (h : ∀ handle rest, ¬Reaches incoming (.info handle) rest) :
    ∃ e rest, dialogue indices ⟨incoming, []⟩ = (.error e, ⟨rest, Stage.sync.written⟩) := by
  unfold dialogue
  rw [handshake_of_opened hopened]
  dsimp only
  cases hcall : call syncMethod syncRequest ⟨input, Stage.ready.written⟩ with
  | mk answer after =>
    obtain rfl : ⟨(Zmtp.readMessage input).2, Stage.sync.written⟩ = after :=
      (snd_call _ _ _ _).symm.trans (congrArg Prod.snd hcall)
    cases answer with
    | error e => exact ⟨_, _, rfl⟩
    | ok sync =>
      obtain ⟨body, hreplies, haccepts⟩ := accepts_of_call (congrArg Prod.fst hcall)
      dsimp only
      cases hhandle : handleOf sync with
      | error e => exact ⟨_, _, rfl⟩
      | ok handle =>
        have hhas := handleOf_eq_ok_iff.1 hhandle
        exact absurd (.synced hopened hreplies haccepts hhas) (h handle _)

theorem dialogue_of_synced (h : Reaches incoming (.info handle) input) :
    dialogue indices ⟨incoming, []⟩ =
      (((call infoMethod (infoRequest handle) ⟨input, Stage.sync.written⟩).1.bind portsOf).bind
        fun ports => indices.mapM (macOf ports),
      ⟨(Zmtp.readMessage input).2, (Stage.info handle).written⟩) := by
  cases h with
  | synced before replies accepts has_handle =>
    unfold dialogue
    rw [handshake_of_opened before]
    dsimp only
    rw [call_of_replies replies, resultOf_eq_ok_iff.2 accepts]
    dsimp only
    rw [handleOf_eq_ok_iff.2 has_handle]
    dsimp only
    exact Prod.ext rfl (snd_call infoMethod (infoRequest handle) input Stage.sync.written)

theorem dialogue_of_sync_refused {code : Int} {reason : String}
    (h : Reaches incoming .sync input) (hreplies : Replies input body rest)
    (hrefuses : Refuses body code reason) :
    dialogue indices ⟨incoming, []⟩ =
      (.error (.refused syncMethod code reason), ⟨rest, Stage.sync.written⟩) := by
  unfold dialogue
  rw [handshake_of_opened h]
  dsimp only
  rw [call_of_replies hreplies, resultOf_of_refuses hrefuses]
  rfl

theorem dialogue_of_info_refused {code : Int} {reason : String}
    (h : Reaches incoming (.info handle) input) (hreplies : Replies input body rest)
    (hrefuses : Refuses body code reason) :
    dialogue indices ⟨incoming, []⟩ =
      (.error (.refused infoMethod code reason), ⟨(Zmtp.readMessage input).2,
        (Stage.info handle).written⟩) := by
  rw [dialogue_of_synced indices h, call_of_replies hreplies, resultOf_of_refuses hrefuses]
  rfl

end

/-- A stage is reached, and no stage that is reached goes past it. -/
structure IsLast (incoming : List UInt8) (last : Stage) : Prop where
  reached : ∃ rest, Reaches incoming last rest
  greatest : ∀ stage rest, Reaches incoming stage rest → stage.written <+: last.written

theorem isLast_greeting (h : ∀ rest, ¬Reaches incoming .ready rest) :
    IsLast incoming .greeting := by
  refine ⟨⟨_, .connected⟩, fun stage rest hstage => ?_⟩
  -- any other stage would be reached by way of READY
  have hready : ¬Stage.ready.written <+: stage.written := fun hp =>
    have ⟨rest, hready⟩ := hstage.of_prefix hp
    h rest hready
  cases stage with
  | greeting => exact List.prefix_refl _
  | ready => exact absurd (List.prefix_refl _) hready
  | sync => exact absurd Stage.ready_prefix_sync hready
  | info handle =>
    exact absurd (Stage.ready_prefix_sync.trans (Stage.sync_prefix_info handle)) hready

theorem isLast_ready (hgreeted : Reaches incoming .ready input)
    (h : ∀ rest, ¬Reaches incoming .sync rest) : IsLast incoming .ready := by
  refine ⟨⟨_, hgreeted⟩, fun stage rest hstage => ?_⟩
  have hsync : ¬Stage.sync.written <+: stage.written := fun hp =>
    have ⟨rest, hsync⟩ := hstage.of_prefix hp
    h rest hsync
  cases stage with
  | greeting => exact Stage.greeting_prefix_ready
  | ready => exact List.prefix_refl _
  | sync => exact absurd (List.prefix_refl _) hsync
  | info handle => exact absurd (Stage.sync_prefix_info handle) hsync

theorem isLast_sync (hopened : Reaches incoming .sync input)
    (h : ∀ handle rest, ¬Reaches incoming (.info handle) rest) : IsLast incoming .sync := by
  refine ⟨⟨_, hopened⟩, fun stage rest hstage => ?_⟩
  cases stage with
  | greeting => exact Stage.greeting_prefix_sync
  | ready => exact Stage.ready_prefix_sync
  | sync => exact List.prefix_refl _
  | info handle => exact absurd hstage (h handle rest)

/-- Only one handle can be reached. -/
theorem isLast_info (hsynced : Reaches incoming (.info handle) input) :
    IsLast incoming (.info handle) := by
  refine ⟨⟨_, hsynced⟩, fun stage rest hstage => ?_⟩
  cases stage with
  | greeting => exact Stage.greeting_prefix_sync.trans (Stage.sync_prefix_info handle)
  | ready => exact Stage.ready_prefix_sync.trans (Stage.sync_prefix_info handle)
  | sync => exact Stage.sync_prefix_info handle
  | info handle' =>
    have hdialogue := (dialogue_of_synced [] hstage).symm.trans (dialogue_of_synced [] hsynced)
    have hwritten : (Stage.info handle').written = (Stage.info handle).written :=
      congrArg (fun r => r.2.written) hdialogue
    rw [hwritten]

/-- A dialogue ends with its last stage. It comes to addresses only where that is the second
request. -/
theorem exists_last (indices : List UInt32) (incoming : List UInt8) :
    ∃ last, IsLast incoming last ∧ (dialogue indices ⟨incoming, []⟩).2.written = last.written ∧
      ((∃ handle, last = .info handle) ∨ ∃ e, (dialogue indices ⟨incoming, []⟩).1 = .error e) := by
  by_cases hgreeted : ∃ input, Reaches incoming .ready input
  swap
  · rw [not_exists] at hgreeted
    obtain ⟨e, rest, hdialogue⟩ := dialogue_of_not_greeted indices hgreeted
    rw [hdialogue]
    exact ⟨_, isLast_greeting hgreeted, rfl, .inr ⟨e, rfl⟩⟩
  obtain ⟨input, hgreeted⟩ := hgreeted
  by_cases hopened : ∃ input, Reaches incoming .sync input
  swap
  · rw [not_exists] at hopened
    obtain ⟨e, rest, hdialogue⟩ := dialogue_of_not_opened indices hgreeted hopened
    rw [hdialogue]
    exact ⟨_, isLast_ready hgreeted hopened, rfl, .inr ⟨e, rfl⟩⟩
  obtain ⟨input, hopened⟩ := hopened
  by_cases hsynced : ∃ handle input, Reaches incoming (.info handle) input
  swap
  · simp only [not_exists] at hsynced
    obtain ⟨e, rest, hdialogue⟩ := dialogue_of_not_synced indices hopened hsynced
    rw [hdialogue]
    exact ⟨_, isLast_sync hopened hsynced, rfl, .inr ⟨e, rfl⟩⟩
  obtain ⟨handle, input, hsynced⟩ := hsynced
  rw [dialogue_of_synced indices hsynced]
  exact ⟨_, isLast_info hsynced, rfl, .inl ⟨handle, rfl⟩⟩

/-- What a dialogue keeps to, with what the peer sends and what comes of it. -/
structure IsFaithful (incoming : List UInt8) (macs : Except PortQueryError (List Mac))
    (written : List UInt8) : Prop where
  script : ∃ handle, written <+: (Stage.info handle).written
  /-- A stage is written when, and only when, the answers have come that lead to it. -/
  stages : ∀ stage, stage.written <+: written ↔ ∃ rest, Reaches incoming stage rest
  accepted : ∀ entries, macs = .ok entries → ∃ handle input body rest info,
    Reaches incoming (.info handle) input ∧ Replies input body rest ∧ Accepts body info
  sync_error : ∀ input body rest code reason, Reaches incoming .sync input →
    Replies input body rest → Refuses body code reason →
      macs = .error (.refused "api_sync_v2" code reason) ∧ written = Stage.sync.written
  info_error : ∀ handle input body rest code reason, Reaches incoming (.info handle) input →
    Replies input body rest → Refuses body code reason →
      macs = .error (.refused "get_system_info" code reason) ∧
        written = (Stage.info handle).written

theorem isFaithful_dialogue (indices : List UInt32) (incoming : List UInt8) :
    IsFaithful incoming (dialogue indices ⟨incoming, []⟩).1
      (dialogue indices ⟨incoming, []⟩).2.written := by
  obtain ⟨last, ⟨⟨rest, hlast⟩, hgreatest⟩, hwritten, hresult⟩ := exists_last indices incoming
  constructor
  · rw [hwritten]
    exact last.exists_prefix_info
  · intro stage
    rw [hwritten]
    exact ⟨fun hp => hlast.of_prefix hp, fun ⟨rest, hstage⟩ => hgreatest stage rest hstage⟩
  · intro entries hentries
    rcases hresult with ⟨handle, rfl⟩ | ⟨e, he⟩
    · rw [dialogue_of_synced indices hlast] at hentries
      obtain ⟨ports, hports, -⟩ := bind_eq_ok hentries
      obtain ⟨info, hinfo, -⟩ := bind_eq_ok hports
      obtain ⟨body, hreplies, haccepts⟩ := accepts_of_call hinfo
      exact ⟨handle, _, body, _, info, hlast, hreplies, haccepts⟩
    · rw [he] at hentries
      cases hentries
  · intro input body rest code reason hreached hreplies hrefuses
    rw [dialogue_of_sync_refused indices hreached hreplies hrefuses]
    exact ⟨rfl, rfl⟩
  · intro handle input body rest code reason hreached hreplies hrefuses
    rw [dialogue_of_info_refused indices hreached hreplies hrefuses]
    exact ⟨rfl, rfl⟩

/-- An error in a reply is never passed over, wherever it stands and whatever stands beside it. -/
theorem not_accepts_of_error {ms : List (Json.Literal × Tree)} {named : List (String × Tree)}
    {e : Tree} (hbody : Tree.parse? body = some (.object ms))
    (hnamed : Tree.members? ms = some named) (he : ("error", e) ∈ named)
    (hnull : e.isNull = false) : ¬Accepts body result := by
  intro haccepts
  cases haccepts with
  | @intro reply value field parsed fields _ _ _ no_error =>
    obtain rfl := Option.some.inj (hbody.symm.trans parsed)
    have hlookup : field "error" = some e := by
      unfold Tree.record? at fields
      simp only [hnamed, Option.bind_eq_bind, Option.bind_some] at fields
      split_ifs at fields with hnodup
      cases fields
      exact Tree.lookup_of_mem hnodup (List.mem_filter.2 ⟨he, rfl⟩)
    rw [hlookup] at no_error
    rcases no_error with hnone | hsome
    · cases hnone
    · cases hsome
      cases hnull

theorem portMacs_some {indices : List UInt32} (h : indices ≠ []) (incoming : List UInt8) :
    portMacs indices (some incoming) =
      ((dialogue indices ⟨incoming, []⟩).1, some (dialogue indices ⟨incoming, []⟩).2.written) := by
  have hnonempty : indices.isEmpty = false := by
    rw [← Bool.not_eq_true, List.isEmpty_iff]
    exact h
  rw [portMacs, hnonempty]
  rfl

/-- Whatever the peer sends, it is asked for ports in a fixed script, no further than its answers
allow, and more of its octets only make the script go on. Both requests are JSON texts, and the
second one has the handle of the first reply. -/
theorem portMacs_isFaithful {indices : List UInt32} (h : indices ≠ []) (incoming : List UInt8) :
    (∃ macs written, portMacs indices (some incoming) = (macs, some written) ∧
      IsFaithful incoming macs written ∧
      ∀ more, ∃ macs' written',
        portMacs indices (some (incoming ++ more)) = (macs', some written') ∧
          written <+: written') ∧
    IsCall syncRequest.print 1 "api_sync_v2"
      [("major", .int 5), ("minor", .int 1), ("name", .text "STL")] ∧
    (∀ handle, IsCall (infoRequest handle).print 2 "get_system_info" [("api_h", .text handle)]) ∧
    ∀ body ms named e, Tree.parse? body = some (.object ms) → Tree.members? ms = some named →
      ("error", e) ∈ named → e.isNull = false → ∀ result, ¬Accepts body result := by
  refine ⟨⟨_, _, portMacs_some h incoming, isFaithful_dialogue indices incoming, fun more =>
    ⟨_, _, portMacs_some h (incoming ++ more), ?_⟩⟩, isCall_syncRequest, isCall_infoRequest,
    fun body ms named e hbody hnamed he hnull result => not_accepts_of_error hbody hnamed he hnull⟩
  obtain ⟨last, ⟨⟨rest, hlast⟩, -⟩, hwritten, -⟩ := exists_last indices incoming
  rw [hwritten]
  exact ((isFaithful_dialogue indices (incoming ++ more)).stages last).2 ⟨_, hlast.append more⟩

end

/-- A reply with a handle and, behind it, an error. -/
def refusal : Tree :=
  .record [("result", .record [("api_h", .ofText "h")]),
    ("error", .record [("code", .ofNat 7), ("message", .ofText "no")])]

theorem replies_messageOf {reply : Tree} (h : reply.print.length ≤ Zmtp.maxFrame)
    (rest : List UInt8) : Replies (messageOf reply ++ rest) reply.print rest := by
  have hcarries : (Frame.ofBody 0 reply.print).Carries 0 reply.print := Frame.carries_ofBody 0 _
  have hcommand : (Frame.ofBody 0 reply.print).isCommand = false := by
    rw [Frame.isCommand, hcarries.command]
    rfl
  have hmore : (Frame.ofBody 0 reply.print).hasMore = false := by
    rw [Frame.hasMore, hcarries.more]
    rfl
  have hroom : ∀ f ∈ [⟨moreFlag, []⟩, Frame.ofBody 0 reply.print], f.HasRoom :=
    List.forall_mem_cons.2 ⟨by decide, List.forall_mem_singleton.2 (Frame.hasRoom_ofBody 0 h)⟩
  have hlimit : ∀ f ∈ [⟨moreFlag, []⟩, Frame.ofBody 0 reply.print],
      f.body.length ≤ Zmtp.maxFrame :=
    List.forall_mem_cons.2 ⟨Nat.zero_le _, List.forall_mem_singleton.2 h⟩
  have hmessage : Zmtp.IsMessage [[], reply.print]
      [⟨moreFlag, []⟩, Frame.ofBody 0 reply.print] :=
    .part (f := ⟨moreFlag, []⟩) (by decide) (by decide) (.last hcommand hmore)
  have hread := Zmtp.readMessage_wire hmessage hroom hlimit rest
  rw [List.flatMap_cons, List.flatMap_singleton] at hread
  exact ⟨[], Zmtp.brings_iff.2 hread⟩

theorem refuses_refusal : Refuses refusal.print 7 "no" := by
  have hwritten : refusal.Written := by
    apply Tree.written_record
    simp [Tree.written_record, Tree.written_ofText, Tree.written_ofNat]
  have herror : errorOfJson? (.record [("code", .ofNat 7), ("message", .ofText "no")]) =
      some (7, "no") := by
    have hcode : (Tree.ofNat 7).int? Int64.minValue.toInt Int64.maxValue.toInt = some 7 := by
      rw [Tree.ofNat, Tree.int?, Numeral.int?_ofInt]
      rfl
    rw [errorOfJson?, Tree.record?_record (by simp) (by simp)]
    show ((Tree.ofNat 7).int? Int64.minValue.toInt Int64.maxValue.toInt).bind _ = _
    rw [hcode]
    rfl
  refine ⟨some (.map [("api_h", .text "h")]), ?_⟩
  rw [Tree.parse?_print hwritten, Option.bind_some, Reply.ofJson?, refusal,
    Tree.record?_record (by simp) (by simp)]
  simp [List.lookup_cons, optional?, value?_handle, herror]
  rfl

/-- The handle of a refused call is not used. -/
theorem portMacs_refusal :
    portMacs [0] (some (Zmtp.greeting ++ (readyCommand ++ messageOf refusal))) =
      (.error (.refused "api_sync_v2" 7 "no"), some Stage.sync.written) := by
  have hgreeted : Reaches (Zmtp.greeting ++ (readyCommand ++ messageOf refusal)) .ready
      (readyCommand ++ messageOf refusal) :=
    .greeted rfl (Zmtp.isGreeting_iff.2 (by decide))
  have hopened : Reaches (Zmtp.greeting ++ (readyCommand ++ messageOf refusal)) .sync
      (messageOf refusal) :=
    .opened hgreeted (Frame.leads_iff.2 (Frame.read_wire_of_le (by decide) (by decide) _))
      (Zmtp.isReady_iff.2 (by decide))
  have hreplies : Replies (messageOf refusal) refusal.print [] := by
    have hlength : refusal.print.length ≤ Zmtp.maxFrame := by decide +kernel
    have hreplies := replies_messageOf hlength []
    rwa [List.append_nil] at hreplies
  have hports : [0] ≠ ([] : List UInt32) := List.cons_ne_nil _ _
  obtain ⟨⟨macs, written, hquery, hfaithful, -⟩, -⟩ :=
    portMacs_isFaithful hports (Zmtp.greeting ++ (readyCommand ++ messageOf refusal))
  obtain ⟨rfl, rfl⟩ := hfaithful.sync_error _ _ _ _ _ hopened hreplies refuses_refusal
  exact hquery

end LoadBench.Trex

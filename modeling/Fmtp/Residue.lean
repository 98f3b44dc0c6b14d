/-
This file follows a reader's buffer, which is longer than what was received. The decoder is not
told how much that is, so the bytes behind the received ones take part as soon as the length
field reaches them, and with less than a header received they even decide whether there is a
packet. What the connection does with a packet it does not heed depends only on the type; so the
rest of the buffer matters exactly where it can complete a header or a heeded payload.
-/

import Fmtp.Received

namespace Fmtp

/-! ### What comes of a packet, whatever its payload -/

/-- Two readings come to the same: the same state, id and queues, or errors of one kind. -/
def Agree : Outcome (Connection × ConnectionContext) → Outcome (Connection × ConnectionContext) →
    Prop
  | .ok (next, context), .ok (next', context') =>
    next.state = next'.state ∧ next.storage.id = next'.storage.id ∧ context = context'
  | .error fault, .error fault' => fault.Panics ↔ fault'.Panics
  | _, _ => False

theorem Agree.refl (outcome : Outcome (Connection × ConnectionContext)) :
    Agree outcome outcome := by
  rcases outcome with fault | ⟨next, context⟩
  · exact Iff.rfl
  · exact ⟨rfl, rfl, rfl⟩

namespace Connection

/-- The connection acts on the payload of the packet: it delivers it, identifies its peer by it,
or takes it for a system packet that there is. -/
def Heeds (connection : Connection) (packet : FmtpPacket) : Prop :=
  match packet.header.typ, connection.state with
  | .operational, .dataReady _ _ | .operator, .dataReady _ _ => connection.storage.entry ≠ none
  | .identification, .idPending _ =>
    packet.isAccept = true ∨ packet.isReject = true ∨
      packet.checkHandshake connection.storage.config connection.storage.id ≠ none
  | .identification, .acceptPending _ => connection.storage.entry ≠ none ∧ packet.isAccept = true
  | .system, _ =>
    packet.isStartup = true ∨ packet.isShutdown = true ∨ packet.isHeartbeat = true
  | _, _ => False

/-- Where the connection goes on what it does not act on. -/
def astray (connection : Connection) : State :=
  match connection.state with
  | .idle | .error => .error
  | .idPending _ | .acceptPending _ => .idle
  | .connectionPending | .ready _ | .associationPending _ | .dataReady _ _ =>
    if connection.storage.entry = none then .idle else .error

/-- What comes of a packet of the type that the connection does not heed. -/
def unheeded (connection : Connection) (typ : FmtpType) (context : ConnectionContext) :
    Outcome (Connection × ConnectionContext) :=
  match typ, connection.state with
  | .system, _ => .error (.error "unexpected system packet payload")
  | .identification, .idPending _ =>
    .ok ({ connection with state := .idle }, context.send .reject)
  | _, _ => .ok ({ connection with state := connection.astray }, context)

/-- What comes of a decoded packet. -/
def answer (connection : Connection) (packet : FmtpPacket) (received : Nat) (now : Instant)
    (context : ConnectionContext) : Outcome (Connection × ConnectionContext) :=
  match Event.fromIncomingPacket received packet now connection.storage.config
      connection.storage.id with
  | .error fault => .error fault
  | .ok event => connection.handleWithContext event context

variable {connection : Connection} {packet : FmtpPacket} {received : Nat}

theorem handleRemotePacket_of_decoded {bytes : List Byte}
    (decoded : FmtpPacket.fromBytes bytes = .ok packet) (now : Instant)
    (context : ConnectionContext) :
    connection.handleRemotePacket bytes received now context =
      connection.answer packet received now context := by
  rw [handleRemotePacket, decoded]
  rfl

end Connection

/-- The events that a payload decides between. -/
def Event.Content : Event → Bool
  | .rAccept _ | .rReject | .rIdValid _ _ | .rIdInvalid | .rData _ _ => true
  | _ => false

/-- The events of a payload on which a state acts. -/
def State.acts : State → Event → Bool
  | .idPending _, .rIdValid _ _ | .idPending _, .rIdInvalid | .acceptPending _, .rAccept _
  | .dataReady _ _, .rData _ _ => true
  | _, _ => false

/-- An identification packet is read as an acceptance or a rejection, or else by the entry that
recognises it. -/
theorem fromIncomingPacket_identification {bytes : Nat} (nonzero : bytes ≠ 0) {packet : FmtpPacket}
    (typ : packet.header.typ = .identification) (now : Instant) (config : Config)
    (connectionId : Option String) :
    ∃ event, Event.fromIncomingPacket bytes packet now config connectionId = .ok event ∧
      (event = .rAccept now ∧ packet.isAccept = true ∨
        packet.isAccept = false ∧
          (event = .rReject ∧ packet.isReject = true ∨
            (∃ id, event = .rIdValid now id ∧
              packet.checkHandshake config connectionId = some id) ∨
            event = .rIdInvalid ∧ packet.isReject = false ∧
              packet.checkHandshake config connectionId = none)) := by
  unfold Event.fromIncomingPacket
  rw [if_neg nonzero, typ]
  dsimp only
  cases accept : packet.isAccept with
  | true => exact ⟨_, rfl, Or.inl ⟨rfl, rfl⟩⟩
  | false =>
    cases reject : packet.isReject with
    | true => exact ⟨_, rfl, Or.inr ⟨rfl, Or.inl ⟨rfl, rfl⟩⟩⟩
    | false =>
      cases recognised : packet.checkHandshake config connectionId with
      | some id => exact ⟨_, rfl, Or.inr ⟨rfl, Or.inr (Or.inl ⟨id, rfl, rfl⟩)⟩⟩
      | none => exact ⟨_, rfl, Or.inr ⟨rfl, Or.inr (Or.inr ⟨rfl, rfl, rfl⟩)⟩⟩

/-- A system packet is read exactly if it is one that there is. -/
theorem fromIncomingPacket_system {bytes : Nat} (nonzero : bytes ≠ 0) {packet : FmtpPacket}
    (typ : packet.header.typ = .system) (now : Instant) (config : Config)
    (connectionId : Option String) :
    (packet.isStartup = true ∨ packet.isShutdown = true ∨ packet.isHeartbeat = true) ∧
        (∃ event, Event.fromIncomingPacket bytes packet now config connectionId = .ok event) ∨
      ¬ (packet.isStartup = true ∨ packet.isShutdown = true ∨ packet.isHeartbeat = true) ∧
        Event.fromIncomingPacket bytes packet now config connectionId =
          .error (.error "unexpected system packet payload") := by
  unfold Event.fromIncomingPacket
  rw [if_neg nonzero, typ]
  dsimp only
  split_ifs with startup shutdown heartbeat
  · exact Or.inl ⟨Or.inl startup, _, rfl⟩
  · exact Or.inl ⟨Or.inr (Or.inl shutdown), _, rfl⟩
  · exact Or.inl ⟨Or.inr (Or.inr heartbeat), _, rfl⟩
  · refine Or.inr ⟨?_, rfl⟩
    rintro (startup | shutdown | heartbeat)
    all_goals contradiction

theorem FmtpPacket.tryToMsg_of_typ {packet : FmtpPacket}
    (typ : packet.header.typ = .operational ∨ packet.header.typ = .operator) :
    ∃ msg, packet.tryToMsg = .ok msg ∧ msg.data = packet.data := by
  unfold tryToMsg
  rcases typ with typ | typ
  · rw [typ]
    exact ⟨_, rfl, rfl⟩
  · rw [typ]
    exact ⟨_, rfl, rfl⟩

/-- A packet that is queued changes the queues. -/
theorem ConnectionContext.ne_send (context : ConnectionContext) (packet : FmtpPacket) :
    context ≠ context.send packet := by
  intro same
  have length := congrArg (fun context => context.sendQueue.length) same
  simp only [ConnectionContext.send, List.length_append, List.length_singleton] at length
  omega

namespace Connection

/-- An event of a payload on which the state does not act leads where every other such event
leads. -/
theorem handleWithContext_astray (connection : Connection) {event : Event}
    (content : event.Content = true) (context : ConnectionContext)
    (clear : connection.state.acts event = true →
      connection.state.needsEntry = true ∧ connection.storage.entry = none) :
    connection.handleWithContext event context =
      .ok ({ connection with state := connection.astray }, context) := by
  obtain ⟨state, storage⟩ := connection
  have reaction : Reaction (storage.beforeDispatch event) state event storage
      (astray ⟨state, storage⟩) [] [] := by
    cases event with
    | rAccept | rReject | rIdValid | rIdInvalid | rData =>
      cases state with
      | idle => exact .refused rfl storage.configured_idle
      | error => exact .ignored rfl nofun
      | idPending ti =>
        first
          | exact .released rfl (storage.configured_idPending ti)
          | exact absurd (clear rfl).1 Bool.false_ne_true
      | acceptPending ti =>
        cases found : storage.entry with
        | none => exact .missing rfl found
        | some entry =>
          first
            | exact .released rfl (storage.configured_of_found found _)
            | exact absurd ((clear rfl).2.symm.trans found) (Option.some_ne_none entry).symm
      | connectionPending | ready | associationPending | dataReady =>
        unfold astray
        cases found : storage.entry with
        | none => exact .missing rfl found
        | some entry =>
          first
            | exact .refused rfl (storage.configured_of_found found _)
            | exact absurd ((clear rfl).2.symm.trans found) (Option.some_ne_none entry).symm
    | _ => cases content
  rw [handleWithContext_of_reaction context reaction, context.extend_nil]

variable {connection : Connection} {packet : FmtpPacket} {received : Nat}

/-- What comes of a packet that the connection does not heed depends only on its type. -/
theorem answer_of_unheeded (nonzero : received ≠ 0) (ignored : ¬ connection.Heeds packet)
    (now : Instant) (context : ConnectionContext) :
    connection.answer packet received now context =
      connection.unheeded packet.header.typ context := by
  obtain ⟨state, storage⟩ := connection
  unfold answer
  cases typ : packet.header.typ with
  | operational | operator =>
    obtain ⟨msg, data, _⟩ := packet.tryToMsg_of_typ (by rw [typ]; simp)
    rw [fromIncomingPacket_data nonzero data]
    refine handleWithContext_astray ⟨state, storage⟩ rfl context ?_
    intro acts
    cases state with
    | dataReady tr ts =>
      refine ⟨rfl, ?_⟩
      simpa only [Heeds, typ, not_not] using ignored
    | _ => cases acts
  | identification =>
    obtain ⟨event, translated, meaning⟩ :=
      fromIncomingPacket_identification nonzero typ now storage.config storage.id
    rw [translated]
    have content : event.Content = true := by
      rcases meaning with ⟨rfl, _⟩ | ⟨_, ⟨rfl, _⟩ | ⟨id, rfl, _⟩ | ⟨rfl, _⟩⟩
      all_goals rfl
    cases state with
    | idPending ti =>
      simp only [Heeds, typ, not_or, not_not] at ignored
      rcases meaning with ⟨_, accept⟩ | ⟨_, ⟨_, reject⟩ | ⟨id, _, recognised⟩ | ⟨rfl, _⟩⟩
      · exact absurd accept ignored.1
      · exact absurd reject ignored.2.1
      · cases recognised.symm.trans ignored.2.2
      · rfl
    | acceptPending ti =>
      refine handleWithContext_astray _ content context fun acts => ⟨rfl, ?_⟩
      simp only [Heeds, typ, not_and] at ignored
      rcases meaning with ⟨_, accept⟩ | ⟨_, ⟨rfl, _⟩ | ⟨id, rfl, _⟩ | ⟨rfl, _⟩⟩
      · by_contra found
        exact ignored found accept
      all_goals cases acts
    | idle | connectionPending | ready | associationPending | dataReady | error =>
      refine handleWithContext_astray _ content context fun acts => ?_
      rcases meaning with ⟨rfl, _⟩ | ⟨_, ⟨rfl, _⟩ | ⟨id, rfl, _⟩ | ⟨rfl, _⟩⟩
      all_goals cases acts
  | system =>
    rcases fromIncomingPacket_system nonzero typ now storage.config storage.id with
      ⟨known, _⟩ | ⟨_, refused⟩
    · refine absurd ?_ ignored
      simp only [Heeds, typ]
      exact known
    · rw [refused]
      rfl

/-- A machine in IdPending rejects what it does not recognise, and only that. -/
theorem answer_of_heeded_idPending (nonzero : received ≠ 0)
    (typ : packet.header.typ = .identification) {ti : Ti} {storage : ConnectionState}
    (heeded : packet.isAccept = true ∨ packet.isReject = true ∨
      packet.checkHandshake storage.config storage.id ≠ none) (now : Instant)
    (context : ConnectionContext) :
    ¬ Agree (answer ⟨.idPending ti, storage⟩ packet received now context)
      (unheeded ⟨.idPending ti, storage⟩ .identification context) := by
  obtain ⟨event, translated, meaning⟩ :=
    fromIncomingPacket_identification nonzero typ now storage.config storage.id
  rw [answer, translated]
  rcases meaning with ⟨rfl, _⟩ | ⟨accept, ⟨rfl, _⟩ | ⟨id, rfl, _⟩ | ⟨_, reject, recognised⟩⟩
  · exact fun agree => context.ne_send _ agree.2.2
  · exact fun agree => context.ne_send _ agree.2.2
  · obtain ⟨next, context', handled⟩ := handleWithContext_ok_of_remote
      ⟨.idPending ti, storage⟩ (rfl : (Event.rIdValid now id).Remote = true) context
    dsimp only
    rw [handled]
    rintro ⟨idle, _, same⟩
    obtain ⟨packets, messages, reaction, extended⟩ := handleWithContext_reaction handled
    obtain ⟨state', storage'⟩ := next
    obtain rfl : state' = .idle := idle
    cases reaction with
    | released closing => cases closing
    | missing needs => cases needs
    | unknownClient | unknownServer =>
      rw [context.extend_nil] at extended
      exact context.ne_send _ (extended.symm.trans same)
  · rw [accept, reject, recognised] at heeded
    simp only [Bool.false_eq_true, ne_eq, not_true_eq_false, or_false] at heeded

/-- A machine in AcceptPending goes on with an acceptance, and only with that. -/
theorem answer_of_heeded_acceptPending (nonzero : received ≠ 0)
    (typ : packet.header.typ = .identification) {ti : Ti} {storage : ConnectionState}
    (found : storage.entry ≠ none) (accept : packet.isAccept = true) (now : Instant)
    (context : ConnectionContext) :
    ¬ Agree (answer ⟨.acceptPending ti, storage⟩ packet received now context)
      (unheeded ⟨.acceptPending ti, storage⟩ .identification context) := by
  obtain ⟨event, translated, meaning⟩ :=
    fromIncomingPacket_identification nonzero typ now storage.config storage.id
  obtain ⟨entry, found⟩ := Option.ne_none_iff_exists'.mp found
  rw [answer, translated]
  rcases meaning with ⟨rfl, _⟩ | ⟨refused, _⟩
  · have handled : handleWithContext ⟨.acceptPending ti, storage⟩ (.rAccept now) context =
        .ok (⟨.ready ⟨now + entry.tr⟩, storage⟩, context.extend [] []) :=
      handleWithContext_of_reaction context (.accepted found)
    dsimp only
    rw [handled]
    rintro ⟨state, _⟩
    cases state
  · cases accept.symm.trans refused

/-- What comes of an identification or system packet that the connection heeds differs from what
comes of one that it does not. -/
theorem answer_of_heeded (nonzero : received ≠ 0) (heeded : connection.Heeds packet)
    (control : packet.header.typ = .identification ∨ packet.header.typ = .system) (now : Instant)
    (context : ConnectionContext) :
    ¬ Agree (connection.answer packet received now context)
      (connection.unheeded packet.header.typ context) := by
  obtain ⟨state, storage⟩ := connection
  rcases control with typ | typ
  · rw [typ]
    cases state with
    | idPending ti =>
      simp only [Heeds, typ] at heeded
      exact answer_of_heeded_idPending nonzero typ heeded now context
    | acceptPending ti =>
      simp only [Heeds, typ] at heeded
      exact answer_of_heeded_acceptPending nonzero typ heeded.1 heeded.2 now context
    | idle | connectionPending | ready | associationPending | dataReady | error =>
      simp only [Heeds, typ] at heeded
  · rcases fromIncomingPacket_system nonzero typ now storage.config storage.id with
      ⟨_, event, translated⟩ | ⟨unknown, _⟩
    · obtain ⟨next, context', handled⟩ := handleWithContext_ok_of_remote ⟨state, storage⟩
        (Event.fromIncomingPacket_remote translated) context
      rw [answer, translated, typ]
      dsimp only
      rw [handled]
      exact not_false
    · refine absurd ?_ unknown
      simpa only [Heeds, typ] using heeded

/-- The received bytes leave open what comes of them: they are less than a header, and the buffer
is long enough to complete it; or they are a header and not all of the payload behind it, of a
packet that the connection heeds. -/
def Undecided (connection : Connection) (size : Nat) (front : List Byte) : Prop :=
  (front.length < 5 ∧ 5 ≤ size ∧
    ∃ header : FmtpPacketHeader, front <+: header.asBytes ∧ header.length.toNat ≤ 10240) ∨
  (5 ≤ front.length ∧ ∃ packet : FmtpPacket, front <+: packet.intoBytes ∧
    front.length < packet.intoBytes.length ∧ packet.intoBytes.length ≤ size ∧
    packet.intoBytes.length ≤ 10240 ∧ connection.Heeds packet)

end Connection

/-! ### The rest of the buffer completes what was received -/

section Completion

variable {front : List Byte} {size : Nat}

/-- The rest of the buffer can complete a packet. -/
theorem FmtpPacket.exists_completion {packet : FmtpPacket} (received : front <+: packet.intoBytes)
    (fits : packet.intoBytes.length ≤ size) (small : packet.intoBytes.length ≤ 10240) :
    ∃ tail, (front ++ tail).length = size ∧ fromBytes (front ++ tail) = .ok packet := by
  obtain ⟨missing, whole⟩ := received
  refine ⟨missing ++ List.replicate (size - packet.intoBytes.length) 0, ?_, ?_⟩
  · rw [← List.append_assoc, whole, List.length_append, List.length_replicate]
    omega
  · rw [← List.append_assoc, whole]
    refine fromBytes_intoBytes packet _ ?_
    rw [packet.intoBytes_length, packet.length_eq] at small
    omega

/-- The last byte of a payload that was not received whole can be any. -/
theorem FmtpPacket.exists_overwritten {packet : FmtpPacket} (received : front <+: packet.intoBytes)
    (header : 5 ≤ front.length) (short : front.length < packet.intoBytes.length) (last : Byte) :
    ∃ packet' : FmtpPacket, packet'.header = packet.header ∧
      packet'.data.getLast? = some last ∧ front <+: packet'.intoBytes := by
  have size : packet.intoBytes.length = 5 + packet.data.length := by
    rw [packet.intoBytes_length, packet.length_eq]
  have nonempty : packet.data ≠ [] := List.ne_nil_of_length_pos (by omega)
  have kept : (packet.data.dropLast ++ [last]).length = packet.data.length := by
    rw [List.length_append, List.length_dropLast, List.length_singleton]
    omega
  refine ⟨⟨packet.header, packet.data.dropLast ++ [last], ?_, ?_⟩, rfl, ?_, ?_⟩
  · rw [kept, packet.length_eq]
  · rw [kept]
    exact packet.data_le
  · rw [List.getLast?_concat]
  · have split : packet.intoBytes =
        (packet.header.asBytes ++ packet.data.dropLast) ++ [packet.data.getLast nonempty] := by
      rw [List.append_assoc, List.dropLast_append_getLast, intoBytes]
    have before : front <+: packet.header.asBytes ++ packet.data.dropLast := by
      refine List.prefix_of_prefix_length_le received (split ▸ List.prefix_append _ _) ?_
      rw [List.length_append, List.length_dropLast, FmtpPacketHeader.asBytes_length]
      omega
    refine before.trans ?_
    rw [intoBytes, ← List.append_assoc]
    exact List.prefix_append _ _

/-- No identification or system packet that is heeded ends in a byte beyond ASCII. -/
theorem Connection.not_heeds_of_last {connection : Connection} {packet : FmtpPacket}
    (control : packet.header.typ = .identification ∨ packet.header.typ = .system)
    (last : packet.data.getLast? = some 255) : ¬ connection.Heeds packet := by
  have plain {fixed : List Byte} (ascii : fixed.getLast? ≠ some 255) : packet.data ≠ fixed := by
    rintro rfl
    exact ascii last
  have accept : ¬ packet.isAccept = true := fun same => plain (by decide) (of_decide_eq_true same).2
  have unrecognised : packet.checkHandshake connection.storage.config connection.storage.id =
      none := by
    cases recognised : packet.checkHandshake connection.storage.config connection.storage.id with
    | none => rfl
    | some id =>
      obtain ⟨entry, _, _, payload, _⟩ := FmtpPacket.checkHandshake_some recognised
      rw [payload, FmtpPacket.handshakePayload, List.getLast?_append_of_ne_nil _
        entry.localId.nonempty] at last
      have ascii := entry.localId.ascii 255 (List.mem_of_getLast? last)
      exact absurd ascii (by decide)
  intro heeded
  unfold Heeds at heeded
  rcases control with typ | typ
  · rw [typ] at heeded
    cases state : connection.state with
    | idPending ti =>
      rw [state] at heeded
      rcases heeded with same | same | recognised
      · exact accept same
      · exact plain (by decide) (of_decide_eq_true same).2
      · exact recognised unrecognised
    | acceptPending ti =>
      rw [state] at heeded
      exact accept heeded.2
    | idle | connectionPending | ready | associationPending | dataReady | error =>
      rw [state] at heeded
      exact heeded
  · rw [typ] at heeded
    rcases heeded with same | same | same
    · exact plain (by decide) (of_decide_eq_true same).2
    · exact plain (by decide) (of_decide_eq_true same).2
    · exact plain (by decide) (of_decide_eq_true same).2

end Completion

/-! ### Exactly when only the received bytes count -/

namespace Connection

section Readings

variable {connection : Connection} {front tail tail' : List Byte} {size : Nat}

theorem handleRemotePacket_of_failed {bytes : List Byte} {fault : Fault}
    (failed : FmtpPacket.fromBytes bytes = .error fault) (received : Nat) (now : Instant)
    (context : ConnectionContext) :
    connection.handleRemotePacket bytes received now context = .error fault := by
  rw [handleRemotePacket, failed]

/-- Two buffers that the decoder refuses come to the same. -/
theorem agree_of_refused {bytes bytes' : List Byte}
    (refused : ∃ fault, FmtpPacket.fromBytes bytes = .error fault ∧ ¬ fault.Panics)
    (refused' : ∃ fault, FmtpPacket.fromBytes bytes' = .error fault ∧ ¬ fault.Panics)
    (received : Nat) (now : Instant) (context : ConnectionContext) :
    Agree (connection.handleRemotePacket bytes received now context)
      (connection.handleRemotePacket bytes' received now context) := by
  obtain ⟨fault, failed, calm⟩ := refused
  obtain ⟨fault', failed', calm'⟩ := refused'
  rw [handleRemotePacket_of_failed failed, handleRemotePacket_of_failed failed']
  exact iff_of_false calm calm'

/-- Less than a header that leaves nothing open is refused, whatever completes it. -/
theorem refuses_of_short (decided : ¬ connection.Undecided size front) (short : front.length < 5)
    (length : (front ++ tail).length = size) :
    ∃ fault, FmtpPacket.fromBytes (front ++ tail) = .error fault ∧ ¬ fault.Panics := by
  refine FmtpPacket.fromBytes_refuses fun header rest same => ?_
  by_contra small
  have began : front <+: header.asBytes := by
    refine List.prefix_of_prefix_length_le (List.prefix_append front tail)
      (same ▸ List.prefix_append _ _) ?_
    rw [header.asBytes_length]
    omega
  refine decided (Or.inl ⟨short, ?_, header, began, Nat.le_of_not_lt small⟩)
  rw [← length, same, List.length_append, header.asBytes_length]
  omega

/-- Bytes that do not begin with a header are refused, whatever follows them. -/
theorem refuses_of_unformed (long : 5 ≤ front.length)
    (unformed : ¬ ∃ (header : FmtpPacketHeader) (more : List Byte), front = header.asBytes ++ more)
    (tail : List Byte) :
    ∃ fault, FmtpPacket.fromBytes (front ++ tail) = .error fault ∧ ¬ fault.Panics := by
  refine FmtpPacket.fromBytes_refuses fun header rest same => ?_
  obtain ⟨more, whole⟩ : header.asBytes <+: front := by
    refine List.prefix_of_prefix_length_le (same ▸ List.prefix_append _ _)
      (List.prefix_append front tail) ?_
    rw [header.asBytes_length]
    exact long
  exact absurd ⟨header, more, whole.symm⟩ unformed

/-- A payload that reaches into the rest of the buffer and leaves nothing open is not heeded. -/
theorem not_heeds_of_decided {header : FmtpPacketHeader} {more : List Byte} {packet : FmtpPacket}
    (decided : ¬ connection.Undecided size (header.asBytes ++ more))
    (small : header.length.toNat ≤ 10240) (fits : header.length.toNat ≤ size)
    (missing : more.length < header.length.toNat - 5) (same : packet.header = header)
    (data : packet.data = (more ++ tail).take (header.length.toNat - 5)) :
    ¬ connection.Heeds packet := by
  intro heeded
  have encoded : packet.intoBytes.length = header.length.toNat := by
    rw [packet.intoBytes_length, same]
  refine decided (Or.inr ⟨?_, packet, ?_, ?_, encoded ▸ fits, encoded ▸ small, heeded⟩)
  · rw [List.length_append, header.asBytes_length]
    exact Nat.le_add_right 5 _
  · rw [FmtpPacket.intoBytes, same, data, List.take_append,
      List.take_of_length_le (Nat.le_of_lt missing), ← List.append_assoc]
    exact List.prefix_append _ _
  · rw [encoded, List.length_append, header.asBytes_length]
    omega

/-- Behind a header, the rest of the buffer does not matter where nothing is left open. -/
theorem agree_of_header {header : FmtpPacketHeader} {more : List Byte}
    (decided : ¬ connection.Undecided size (header.asBytes ++ more))
    (length : (header.asBytes ++ (more ++ tail)).length = size)
    (length' : (header.asBytes ++ (more ++ tail')).length = size) {received : Nat}
    (nonzero : received ≠ 0) (now : Instant) (context : ConnectionContext) :
    Agree (connection.handleRemotePacket (header.asBytes ++ (more ++ tail)) received now context)
      (connection.handleRemotePacket (header.asBytes ++ (more ++ tail')) received now context) := by
  rcases Nat.lt_or_ge 10240 header.length.toNat with large | small
  · exact agree_of_refused ⟨_, FmtpPacket.fromBytes_large large, not_false⟩
      ⟨_, FmtpPacket.fromBytes_large large, not_false⟩ _ now context
  by_cases overruns : header.Overruns size
  · obtain ⟨message, failed⟩ := FmtpPacket.fromBytes_overruns (length.symm ▸ overruns)
    obtain ⟨message', failed'⟩ := FmtpPacket.fromBytes_overruns (length'.symm ▸ overruns)
    rw [handleRemotePacket_of_failed failed, handleRemotePacket_of_failed failed']
    exact Iff.rfl
  obtain ⟨packet, same, data, decoded⟩ :=
    FmtpPacket.fromBytes_whole small (length.symm ▸ overruns)
  obtain ⟨packet', same', data', decoded'⟩ :=
    FmtpPacket.fromBytes_whole small (length'.symm ▸ overruns)
  rw [handleRemotePacket_of_decoded decoded, handleRemotePacket_of_decoded decoded']
  rcases Nat.lt_or_ge more.length (header.length.toNat - 5) with missing | whole
  · have fits : header.length.toNat ≤ size := by
      by_contra long
      exact overruns ⟨small, Or.inr (Nat.lt_of_not_le long)⟩
    have ignored := not_heeds_of_decided decided small fits missing same data
    have ignored' := not_heeds_of_decided decided small fits missing same' data'
    rw [answer_of_unheeded nonzero ignored, answer_of_unheeded nonzero ignored', same, same']
    exact Agree.refl _
  · have equal : packet = packet' := by
      rw [List.take_append_of_le_length whole] at data data'
      obtain ⟨_, _, _, _⟩ := packet
      obtain ⟨_, _, _, _⟩ := packet'
      rw [FmtpPacket.mk.injEq]
      exact ⟨same.trans same'.symm, data.trans data'.symm⟩
    rw [equal]
    exact Agree.refl _

/-- Where the received bytes leave nothing open, the rest of the buffer does not matter. -/
theorem agree_of_decided (decided : ¬ connection.Undecided size front)
    (length : (front ++ tail).length = size) (length' : (front ++ tail').length = size)
    (now : Instant) (context : ConnectionContext) :
    Agree (connection.handleRemotePacket (front ++ tail) front.length now context)
      (connection.handleRemotePacket (front ++ tail') front.length now context) := by
  rcases Nat.lt_or_ge front.length 5 with short | long
  · exact agree_of_refused (refuses_of_short decided short length)
      (refuses_of_short decided short length') _ now context
  by_cases formed : ∃ (header : FmtpPacketHeader) (more : List Byte), front = header.asBytes ++ more
  · obtain ⟨header, more, rfl⟩ := formed
    have nonzero : (header.asBytes ++ more).length ≠ 0 := by omega
    rw [List.append_assoc] at length length' ⊢
    rw [List.append_assoc]
    exact agree_of_header decided length length' nonzero now context
  · exact agree_of_refused (refuses_of_unformed long formed tail)
      (refuses_of_unformed long formed tail') _ now context

/-- A data packet is always dispatched. -/
theorem answer_ok_of_data {packet : FmtpPacket}
    (typ : packet.header.typ = .operational ∨ packet.header.typ = .operator) (received : Nat)
    (now : Instant) (context : ConnectionContext) :
    ∃ next context', connection.answer packet received now context = .ok (next, context') := by
  obtain ⟨event, translated⟩ : ∃ event, Event.fromIncomingPacket received packet now
      connection.storage.config connection.storage.id = .ok event := by
    by_cases nonzero : received = 0
    · exact ⟨.rDisconnect, by rw [Event.fromIncomingPacket, if_pos nonzero]⟩
    · obtain ⟨msg, data, _⟩ := packet.tryToMsg_of_typ typ
      exact ⟨_, fromIncomingPacket_data nonzero data⟩
  rw [answer, translated]
  exact connection.handleWithContext_ok_of_remote (Event.fromIncomingPacket_remote translated)
    context

/-- Less than a header can be completed to a packet, and to bytes of no known type. -/
theorem differ_of_header (short : front.length < 5) (long : 5 ≤ size) {header : FmtpPacketHeader}
    (began : front <+: header.asBytes) (small : header.length.toNat ≤ 10240) (now : Instant)
    (context : ConnectionContext) :
    ∃ tail tail', (front ++ tail).length = size ∧ (front ++ tail').length = size ∧
      ¬ Agree (connection.handleRemotePacket (front ++ tail) front.length now context)
        (connection.handleRemotePacket (front ++ tail') front.length now context) := by
  obtain ⟨version, reserved, length, typ⟩ := header
  obtain ⟨missing, whole⟩ : front <+: [version.toByte, reserved.toByte, (bigEndian length).1,
      (bigEndian length).2] :=
    List.prefix_of_prefix_length_le began ⟨[typ.toByte], rfl⟩ (Nat.le_of_lt_succ short)
  let data : FmtpPacketHeader := ⟨version, reserved, length, .operational⟩
  let rest : List Byte := List.replicate (size - 5) 0
  have size_eq (typ : Byte) : (front ++ (missing ++ typ :: rest)).length = size := by
    rw [← List.append_assoc, whole]
    simp only [rest, List.length_append, List.length_cons, List.length_nil, List.length_replicate]
    omega
  have completed : front ++ (missing ++ 1 :: rest) = data.asBytes ++ rest := by
    rw [← List.append_assoc, whole]
    rfl
  obtain ⟨cause, refused⟩ : ∃ cause, FmtpPacket.fromBytes (front ++ (missing ++ 0 :: rest)) =
      .error (.decode cause) := by
    refine FmtpPacket.fromBytes_malformed fun header rest' same => ?_
    rw [← List.append_assoc, whole] at same
    simp only [FmtpPacketHeader.asBytes, List.cons_append, List.nil_append, List.cons.injEq] at same
    obtain ⟨_, _, _, _, typed, _⟩ := same
    cases typ' : header.typ with
    | operational | operator | identification | system =>
      rw [typ'] at typed
      exact absurd typed (by decide)
  refine ⟨missing ++ 1 :: rest, missing ++ 0 :: rest, size_eq 1, size_eq 0, ?_⟩
  rw [handleRemotePacket_of_failed refused, completed]
  by_cases overruns : data.Overruns (data.asBytes ++ rest).length
  · obtain ⟨message, failed⟩ := FmtpPacket.fromBytes_overruns overruns
    rw [handleRemotePacket_of_failed failed]
    exact fun agree => agree.mp trivial
  · have within : data.length.toNat ≤ 10240 := small
    obtain ⟨packet, same, _, decoded⟩ := FmtpPacket.fromBytes_whole within overruns
    have typ : packet.header.typ = .operational := by rw [same]
    obtain ⟨next, context', handled⟩ :=
      answer_ok_of_data (Or.inl typ) front.length now context
    rw [handleRemotePacket_of_decoded decoded, handled]
    exact not_false

/-- A payload that was not received whole can be completed to end in any byte. -/
theorem exists_ending {packet : FmtpPacket} (long : 5 ≤ front.length)
    (received : front <+: packet.intoBytes) (short : front.length < packet.intoBytes.length)
    (fits : packet.intoBytes.length ≤ size) (small : packet.intoBytes.length ≤ 10240)
    (last : Byte) :
    ∃ packet' tail, packet'.header = packet.header ∧ packet'.data.getLast? = some last ∧
      (front ++ tail).length = size ∧ FmtpPacket.fromBytes (front ++ tail) = .ok packet' := by
  obtain ⟨packet', same, ends, received'⟩ :=
    FmtpPacket.exists_overwritten received long short last
  have encoded : packet'.intoBytes.length = packet.intoBytes.length := by
    rw [packet'.intoBytes_length, packet.intoBytes_length, same]
  obtain ⟨tail, length, decoded⟩ :=
    FmtpPacket.exists_completion received' (encoded ▸ fits) (encoded ▸ small)
  exact ⟨packet', tail, same, ends, length, decoded⟩

/-- An associated connection with an entry delivers the payload of a data packet. -/
theorem answer_of_data {packet : FmtpPacket} {received : Nat} {tr : Tr} {ts : Ts}
    (nonzero : received ≠ 0)
    (typ : packet.header.typ = .operational ∨ packet.header.typ = .operator)
    (associated : connection.state = .dataReady tr ts) (found : connection.storage.entry ≠ none)
    (now : Instant) (context : ConnectionContext) :
    ∃ msg next, msg.data = packet.data ∧
      connection.answer packet received now context = .ok (next, context.receive msg) := by
  obtain ⟨msg, held, payload⟩ := packet.tryToMsg_of_typ typ
  obtain ⟨entry, found⟩ := Option.ne_none_iff_exists'.mp found
  obtain ⟨state, storage⟩ := connection
  obtain rfl : state = .dataReady tr ts := associated
  rw [answer, fromIncomingPacket_data nonzero held]
  exact ⟨msg, _, payload, handleWithContext_data found tr ts now msg context⟩

section Payload

variable {packet : FmtpPacket}

/-- A heeded control packet can be completed to one that is not heeded. -/
theorem differ_of_control (long : 5 ≤ front.length) (received : front <+: packet.intoBytes)
    (short : front.length < packet.intoBytes.length) (fits : packet.intoBytes.length ≤ size)
    (small : packet.intoBytes.length ≤ 10240) (heeded : connection.Heeds packet)
    (typ : packet.header.typ = .identification ∨ packet.header.typ = .system) (now : Instant)
    (context : ConnectionContext) :
    ∃ tail tail', (front ++ tail).length = size ∧ (front ++ tail').length = size ∧
      ¬ Agree (connection.handleRemotePacket (front ++ tail) front.length now context)
        (connection.handleRemotePacket (front ++ tail') front.length now context) := by
  have nonzero : front.length ≠ 0 := by omega
  obtain ⟨tail, length, decoded⟩ := FmtpPacket.exists_completion received fits small
  obtain ⟨packet', tail', same, ends, length', decoded'⟩ :=
    exists_ending long received short fits small 255
  refine ⟨tail, tail', length, length', ?_⟩
  rw [handleRemotePacket_of_decoded decoded, handleRemotePacket_of_decoded decoded',
    answer_of_unheeded nonzero (not_heeds_of_last (same ▸ typ) ends), same]
  exact answer_of_heeded nonzero heeded typ now context

/-- A data packet can be completed to two messages. -/
theorem differ_of_data (long : 5 ≤ front.length) (received : front <+: packet.intoBytes)
    (short : front.length < packet.intoBytes.length) (fits : packet.intoBytes.length ≤ size)
    (small : packet.intoBytes.length ≤ 10240)
    (typ : packet.header.typ = .operational ∨ packet.header.typ = .operator) {tr : Tr} {ts : Ts}
    (associated : connection.state = .dataReady tr ts) (found : connection.storage.entry ≠ none)
    (now : Instant) (context : ConnectionContext) :
    ∃ tail tail', (front ++ tail).length = size ∧ (front ++ tail').length = size ∧
      ¬ Agree (connection.handleRemotePacket (front ++ tail) front.length now context)
        (connection.handleRemotePacket (front ++ tail') front.length now context) := by
  have nonzero : front.length ≠ 0 := by omega
  obtain ⟨zeroed, tail, same, ends, length, decoded⟩ :=
    exists_ending long received short fits small 0
  obtain ⟨other, tail', same', ends', length', decoded'⟩ :=
    exists_ending long received short fits small 1
  obtain ⟨msg, next, payload, handled⟩ :=
    answer_of_data nonzero (same ▸ typ) associated found now context
  obtain ⟨msg', next', payload', handled'⟩ :=
    answer_of_data nonzero (same' ▸ typ) associated found now context
  refine ⟨tail, tail', length, length', ?_⟩
  rw [handleRemotePacket_of_decoded decoded, handleRemotePacket_of_decoded decoded', handled,
    handled']
  rintro ⟨_, _, queues⟩
  have queued := congrArg (fun context => context.recvQueue.getLast?) queues
  simp only [ConnectionContext.receive, List.getLast?_concat] at queued
  obtain rfl := Option.some.inj queued
  rw [← payload, payload', ends'] at ends
  exact absurd ends (by decide)

/-- A payload that the connection heeds can be completed to another. -/
theorem differ_of_packet (long : 5 ≤ front.length) (received : front <+: packet.intoBytes)
    (short : front.length < packet.intoBytes.length) (fits : packet.intoBytes.length ≤ size)
    (small : packet.intoBytes.length ≤ 10240) (heeded : connection.Heeds packet) (now : Instant)
    (context : ConnectionContext) :
    ∃ tail tail', (front ++ tail).length = size ∧ (front ++ tail').length = size ∧
      ¬ Agree (connection.handleRemotePacket (front ++ tail) front.length now context)
        (connection.handleRemotePacket (front ++ tail') front.length now context) := by
  have heeds := heeded
  unfold Heeds at heeds
  cases typ : packet.header.typ with
  | identification | system =>
    have control : packet.header.typ = .identification ∨ packet.header.typ = .system := by
      rw [typ]
      simp
    exact differ_of_control long received short fits small heeded control now context
  | operational | operator =>
    have data : packet.header.typ = .operational ∨ packet.header.typ = .operator := by
      rw [typ]
      simp
    rw [typ] at heeds
    cases state : connection.state with
    | dataReady tr ts =>
      rw [state] at heeds
      exact differ_of_data long received short fits small data state heeds now context
    | _ =>
      rw [state] at heeds
      exact absurd heeds not_false

end Payload

end Readings

end Connection

/-- Whatever was left in the rest of the buffer, the reading of the received bytes comes to the
same outcome, state, id and queues, exactly where the received bytes leave nothing open. -/
theorem received_exact (connection : Connection) (size : Nat) (front : List Byte) (now : Instant)
    (context : ConnectionContext) :
    (∀ tail tail', (front ++ tail).length = size → (front ++ tail').length = size →
      Agree (connection.handleRemotePacket (front ++ tail) front.length now context)
        (connection.handleRemotePacket (front ++ tail') front.length now context)) ↔
      ¬ connection.Undecided size front := by
  constructor
  · rintro agree (⟨short, long, header, began, small⟩ |
      ⟨long, packet, received, short, fits, small, heeded⟩)
    · obtain ⟨tail, tail', length, length', differ⟩ :=
        Connection.differ_of_header short long began small now context
      exact differ (agree tail tail' length length')
    · obtain ⟨tail, tail', length, length', differ⟩ :=
        Connection.differ_of_packet long received short fits small heeded now context
      exact differ (agree tail tail' length length')
  · intro decided tail tail' length length'
    exact Connection.agree_of_decided decided length length' now context

namespace Sample

/-- The client of the tests, associated. -/
def associatedClient : Connection where
  state := .dataReady ⟨40⟩ ⟨15⟩
  storage := { config := clientConfig, server := false, target := .dataReady, id := some "test" }

/-- A message of one byte. -/
def letter (byte : Byte) : FmtpPacket :=
  .ofPayload .operational [byte] (by rw [List.length_singleton]; decide)

/-- The buffer of a reader that has received the header of the message, and to whom its
predecessors left the byte. -/
theorem exists_staleBuffer (byte : Byte) : ∃ buffer : List Byte, buffer.length = 10240 ∧
    buffer.take 5 = (letter 0).header.asBytes ∧
    FmtpPacket.fromBytes buffer = .ok (letter byte) := by
  refine ⟨(letter byte).intoBytes ++ List.replicate 10234 0, ?_, ?_, ?_⟩
  · have short : (letter byte).intoBytes.length = 6 := rfl
    rw [List.length_append, List.length_replicate, short]
  · rw [FmtpPacket.intoBytes, List.append_assoc]
    exact List.take_left' rfl
  · refine FmtpPacket.fromBytes_intoBytes (letter byte) _ ?_
    show [byte].length ≤ 10235
    rw [List.length_singleton]
    decide

end Sample

/-- A byte that was not received is delivered. -/
theorem stale_delivered : ¬ ∀ (connection : Connection) (now : Instant) (received : Nat)
    (buffer buffer' : List Byte) (context : ConnectionContext), 1 ≤ received →
    received ≤ buffer.length → buffer.length = buffer'.length →
    buffer.take received = buffer'.take received →
    Agree (connection.handleRemotePacket buffer received now context)
      (connection.handleRemotePacket buffer' received now context) := by
  intro claim
  obtain ⟨buffer, length, received, decoded⟩ := Sample.exists_staleBuffer 65
  obtain ⟨buffer', length', received', decoded'⟩ := Sample.exists_staleBuffer 66
  have agree := claim Sample.associatedClient 0 5 buffer buffer' .empty (by decide)
    (by rw [length]; decide) (length.trans length'.symm) (received.trans received'.symm)
  rw [Connection.handleRemotePacket_of_decoded decoded,
    Connection.handleRemotePacket_of_decoded decoded'] at agree
  have same : [FmtpMessage.operational [65]] = [FmtpMessage.operational [66]] :=
    congrArg ConnectionContext.recvQueue agree.2.2
  exact absurd same (by decide)

end Fmtp

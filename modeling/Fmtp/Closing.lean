/-
This file settles how the end of the stream is seen. A read of no bytes is meant as a disconnect,
but the receiver decodes what earlier reads left in the buffer before it looks at the number of
bytes: the peer's close is dispatched exactly where the buffer begins with a whole frame.
-/

import Fmtp.Framing
import Fmtp.Iteration

namespace Fmtp

open TransitionSystem

/-! ### A call of the receiver -/

namespace Connection

/-- A call for no bytes returns, and what it returns is what a disconnect leads to. -/
def SeesClose (connection : Connection) (bytes : List Byte) (now : Instant)
    (context : ConnectionContext) : Prop :=
  ∃ next context', connection.handleRemotePacket bytes 0 now context = .ok (next, context') ∧
    connection.handleWithContext .rDisconnect context = .ok (next, context')

variable (connection : Connection) {bytes : List Byte} (now : Instant)
  (context : ConnectionContext)

/-- Whatever packet is decoded, no bytes stand for a disconnect. -/
theorem handleRemotePacket_zero {packet : FmtpPacket}
    (decoded : FmtpPacket.fromBytes bytes = .ok packet) :
    connection.handleRemotePacket bytes 0 now context =
      connection.handleWithContext .rDisconnect context := by
  unfold handleRemotePacket
  rw [decoded]
  rfl

theorem seesClose_iff : connection.SeesClose bytes now context ↔ Framed bytes := by
  rw [← FmtpPacket.fromBytes_accepts]
  constructor
  · rintro ⟨next, context', handled, _⟩
    unfold handleRemotePacket at handled
    cases decoded : FmtpPacket.fromBytes bytes with
    | error fault =>
      rw [decoded] at handled
      cases handled
    | ok packet => exact ⟨packet, rfl⟩
  · rintro ⟨packet, decoded⟩
    have remote : Event.rDisconnect.Remote = true := rfl
    obtain ⟨next, context', handled⟩ :=
      connection.handleWithContext_ok_of_remote remote context
    refine ⟨next, context', ?_, handled⟩
    rw [connection.handleRemotePacket_zero now context decoded, handled]

end Connection

/-- Whatever the connection, a call of the receiver for no bytes returns and does what a
disconnect does exactly where its buffer begins with a whole frame. -/
theorem close_exact (connection : Connection) (buffer : Tokio.Buffer) (now : Instant)
    (context : ConnectionContext) :
    connection.SeesClose buffer.1 now context ↔ Framed buffer.1 :=
  connection.seesClose_iff now context

/-- No frame begins with a zero. -/
theorem not_framed_zero : ¬ Framed Tokio.Buffer.zero.1 := by
  intro framed
  have version : (List.replicate 10240 (0 : Byte)).getD 0 0 = 2 := framed.version
  rw [show 10240 = 10239 + 1 from rfl, List.replicate_succ, List.getD_cons_zero] at version
  exact absurd version (by decide)

/-- A server that has just accepted a peer does not see it close. -/
theorem close_unseen : ¬ ∀ (config : Config) (id : Option String) (events : List Event)
    (recording : Recording) (buffer : Tokio.Buffer) (now : Instant),
    Run Recording.step (.start config id) events recording →
    recording.connection.SeesClose buffer.1 now recording.context := by
  intro claim
  have run : Run Recording.step (.start Sample.serverConfig none) [.rSetup 0] _ :=
    Run.of_final rfl
  have seen := claim _ _ _ _ Tokio.Buffer.zero 1 run
  exact not_framed_zero ((Connection.seesClose_iff _ _ _).mp seen)

/-! ### Runs of the loop -/

namespace Tokio

namespace Connection

theorem handleRemotePacket_zero (connection : Connection) {bytes : List Byte} (now : Instant)
    {packet : FmtpPacket} (decoded : FmtpPacket.fromBytes bytes = .ok packet) :
    connection.handleRemotePacket bytes 0 now = connection.dispatch .rDisconnect := by
  unfold handleRemotePacket
  rw [decoded]
  rfl

end Connection

/-- A read of no bytes leaves the buffer as it is. -/
theorem Buffer.fill_nil (buffer : Buffer) {chunk : Chunk} (empty : chunk.1 = []) :
    buffer.fill chunk = buffer := by
  refine Subtype.ext ?_
  show chunk.1 ++ buffer.1.drop chunk.1.length = buffer.1
  rw [empty]
  rfl

namespace Loop

variable {loop next : Loop} {offer : Offer}

/-- The peer closed: the selected branch is a read of no bytes. -/
def Closes (loop : Loop) (offer : Offer) : Prop :=
  ∃ chunk : Chunk, chunk.1 = [] ∧ loop.select offer = some (.read (some chunk))

/-- The first thing an iteration does is to dispatch a disconnect. -/
def Disconnects (loop next : Loop) : Prop :=
  ∃ entry actions, entry.event = .rDisconnect ∧
    next.connection.log = loop.connection.log ++ .dispatched entry :: actions

theorem readArm_nil (loop : Loop) (offer : Offer) {chunk : Chunk} (empty : chunk.1 = []) :
    loop.readArm offer (some chunk) =
      match loop.connection.handleRemotePacket loop.buffer.1 0 offer.clock with
      | .ok connection => { loop with connection }
      | .error fault => loop.fail fault := by
  unfold readArm
  dsimp only
  rw [Buffer.fill_nil _ empty, empty]
  rfl

/-- An iteration in which the peer closes dispatches a disconnect exactly where the buffer begins
with a whole frame. -/
theorem iterate_closes (closes : loop.Closes offer) (move : loop.iterate offer = some next) :
    loop.Disconnects next ↔ Framed loop.buffer.1 := by
  obtain ⟨chunk, empty, selected⟩ := closes
  obtain ⟨_, branch, selected', actions, stays, plain⟩ := loop.iterate_spec offer move
  obtain rfl := Option.some.inj (selected.symm.trans selected')
  have arm : loop.pop.readArm offer (some chunk) =
      match loop.pop.connection.handleRemotePacket loop.buffer.1 0 offer.clock with
      | .ok connection => { loop.pop with connection }
      | .error fault => loop.pop.fail fault := loop.pop.readArm_nil offer empty
  rw [← FmtpPacket.fromBytes_accepts]
  constructor
  · rintro ⟨entry, later, _, logged⟩
    cases decoded : FmtpPacket.fromBytes loop.buffer.1 with
    | ok packet => exact ⟨packet, rfl⟩
    | error fault =>
      have failed : loop.pop.connection.handleRemotePacket loop.buffer.1 0 offer.clock =
          .error fault := by
        unfold Connection.handleRemotePacket
        rw [decoded]
      rw [failed] at arm
      have log : next.connection.log = loop.connection.log ++ actions := by
        rw [stays.log]
        show (loop.pop.readArm offer (some chunk)).connection.log ++ actions = _
        rw [arm]
        rfl
      have same : actions = .dispatched entry :: later :=
        List.append_cancel_left (log.symm.trans logged)
      have dispatched : (Action.dispatched entry).Plain := by
        refine plain _ ?_
        rw [same]
        exact List.mem_cons_self
      exact absurd dispatched not_false
  · rintro ⟨packet, decoded⟩
    have other : ∀ now msg, Event.rDisconnect ≠ .lData now msg := nofun
    obtain ⟨connection, handled⟩ := loop.pop.connection.dispatch_ok other
    rw [loop.pop.connection.handleRemotePacket_zero offer.clock decoded, handled] at arm
    obtain ⟨entry, raised, dispatches⟩ := Connection.dispatch_spec handled
    refine ⟨entry, actions, raised, ?_⟩
    rw [stays.log]
    show (loop.pop.readArm offer (some chunk)).connection.log ++ actions = _
    rw [arm]
    show connection.log ++ actions = _
    rw [dispatches.log, List.append_assoc]
    rfl

end Loop

/-- In a run of the loop every close of the peer is dispatched as a disconnect, if and only if at
every close the buffer begins with a whole frame. -/
theorem closes_seen_iff {first last : Loop} {offers : List Offer}
    (run : Run Loop.iterate first offers last) :
    EachMove Loop.iterate (fun loop offer next => loop.Closes offer → loop.Disconnects next)
        first offers ↔
      EachStep Loop.iterate (fun loop offer => loop.Closes offer → Framed loop.buffer.1)
        first offers := by
  have kept : ∀ (loop : Loop) (offer : Offer) (next : Loop), True → True →
      (loop.Closes offer → Framed loop.buffer.1) → loop.iterate offer = some next →
      True ∧ (loop.Closes offer → loop.Disconnects next) :=
    fun _ _ _ _ _ framed move =>
      ⟨trivial, fun closes => (Loop.iterate_closes closes move).mpr (framed closes)⟩
  have broken : ∀ (loop : Loop) (offer : Offer) (next : Loop), True → True →
      ¬ (loop.Closes offer → Framed loop.buffer.1) → loop.iterate offer = some next →
      ¬ (loop.Closes offer → loop.Disconnects next) :=
    fun _ _ _ _ _ unframed move seen =>
      unframed fun closes => (Loop.iterate_closes closes move).mp (seen closes)
  have assumed : EachStep Loop.iterate (fun _ _ => True) first offers :=
    eachStep_of_forall first fun _ _ => trivial
  exact eachMove_iff_eachStep kept broken run trivial assumed

end Tokio

end Fmtp

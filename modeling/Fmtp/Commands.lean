/-
This file proves what a user's commands are worth over whole runs of the loop. After a
Shutdown the machine rests: it neither associates again nor sends or delivers anything until a
Startup. After a Disconnect no session is opened until a Setup, exactly as long as the arm of
Idle does not reconnect on its own: that arm looks at the id, the socket and the retry timer,
and not at the target that the command has set.
-/

import Fmtp.Dialling
import Mathlib.Tactic.FinCases

namespace Fmtp.Tokio

open TransitionSystem

/-! ### What the branches raise -/

/-- What ends the block over the state, and with which result. -/
inductive Turns (inner : Fmtp.Connection) (offer : Offer) : Turn → Prop
  | idle (idle : inner.state = .idle) : Turns inner offer .idle
  | remained (pending : inner.state = .connectionPending) :
    Turns inner offer (.failed "Unexpectedly remained in intermediate state CONNECTION_PENDING")
  | failed (failed : inner.state = .error) :
    Turns inner offer (.failed "reached state ERROR, terminating")
  | identification {ti : Ti} (pending : inner.state = .idPending ti)
    (due : ti.deadline ≤ offer.clock) : Turns inner offer (.raised .tiTimeout)
  | acceptance {ti : Ti} (pending : inner.state = .acceptPending ti)
    (due : ti.deadline ≤ offer.clock) : Turns inner offer (.raised .tiTimeout)
  | startup {tr : Tr} (ready : inner.state = .ready tr)
    (meant : inner.storage.target = .dataReady) :
    Turns inner offer (.raised (.lStartup offer.clock))
  | slept {tr : Tr} (ready : inner.state = .ready tr)
    (unmeant : inner.storage.target ≠ .dataReady) (due : tr.deadline ≤ offer.clock) :
    Turns inner offer .slept
  | association {tr : Tr} (pending : inner.state = .associationPending tr)
    (due : tr.deadline ≤ offer.clock) : Turns inner offer (.raised (.trTimeout offer.clock))
  | silence {tr : Tr} {ts : Ts} (associated : inner.state = .dataReady tr ts)
    (due : tr.deadline ≤ offer.clock) : Turns inner offer (.raised (.trTimeout offer.clock))
  | heartbeat {tr : Tr} {ts : Ts} (associated : inner.state = .dataReady tr ts)
    (due : ts.deadline ≤ offer.clock) : Turns inner offer (.raised (.tsTimeout offer.clock))

theorem turn_spec {inner : Fmtp.Connection} {offer : Offer} {turned : Turn}
    (ended : turn inner offer = some turned) : Turns inner offer turned := by
  unfold turn at ended
  split at ended
  · rename_i idle
    cases ended
    exact .idle idle
  · rename_i pending
    cases ended
    exact .remained pending
  · rename_i ti pending
    split at ended
    · rename_i due
      cases ended
      exact .identification pending due
    · cases ended
  · rename_i ti pending
    split at ended
    · rename_i due
      cases ended
      exact .acceptance pending due
    · cases ended
  · rename_i tr ready
    split at ended
    · rename_i meant
      cases ended
      exact .startup ready meant
    · rename_i unmeant
      split at ended
      · rename_i due
        cases ended
        exact .slept ready unmeant due
      · cases ended
  · rename_i tr pending
    split at ended
    · rename_i due
      cases ended
      exact .association pending due
    · cases ended
  · rename_i tr ts associated
    split at ended
    · rename_i due
      cases ended
      exact .silence associated due.1
    · split at ended
      · rename_i due
        cases ended
        exact .heartbeat associated due
      · cases ended
  · rename_i failed
    cases ended
    exact .failed failed

/-- The block over the state raises a timeout, or associates a machine in Ready that is meant
to reach DataReady. -/
theorem turn_raised {inner : Fmtp.Connection} {offer : Offer} {event : Event}
    (turned : turn inner offer = some (.raised event)) :
    event = .tiTimeout ∨ event = .trTimeout offer.clock ∨ event = .tsTimeout offer.clock ∨
      event = .lStartup offer.clock ∧ (∃ tr, inner.state = .ready tr) ∧
        inner.storage.target = .dataReady := by
  cases turn_spec turned with
  | identification | acceptance => exact Or.inl rfl
  | association | silence => exact Or.inr (Or.inl rfl)
  | heartbeat => exact Or.inr (Or.inr (Or.inl rfl))
  | startup ready meant => exact Or.inr (Or.inr (Or.inr ⟨rfl, ⟨_, ready⟩, meant⟩))

/-- Only a machine in Idle is sent to the arm of Idle. -/
theorem turn_idle {inner : Fmtp.Connection} {offer : Offer}
    (turned : turn inner offer = some .idle) : inner.state = .idle := by
  cases turn_spec turned with
  | idle idle => exact idle

namespace Loop

variable {loop : Loop} {offer : Offer} {branch : Branch} {event : Event}

/-- Outside the arm of Idle, only a command sets the machine up and nothing stands for a TCP
connection. -/
theorem raises_setUp (chosen : loop.Chosen offer branch)
    (raised : branch.Raises offer.clock event) :
    (∀ now, event ≠ .rSetup now) ∧
      ∀ id, event = .lSetup id → branch = .command (some (.setup id)) := by
  cases branch with
  | transmit packet =>
    obtain rfl : event = .rDisconnect := raised
    exact ⟨nofun, nofun⟩
  | command received =>
    obtain ⟨command, rfl, rfl⟩ := raised
    cases command with
    | setup id =>
      refine ⟨nofun, ?_⟩
      rintro id' same
      cases same
      rfl
    | disconnect | data | shutdown | startup => exact ⟨nofun, nofun⟩
  | receive msg => exact absurd raised not_false
  | machine turned =>
    obtain rfl : turned = .raised event := raised
    rcases turn_raised chosen.2.2.2 with rfl | rfl | rfl | ⟨rfl, _⟩ <;> exact ⟨nofun, nofun⟩
  | read received =>
    have remote : event.Remote = true := raised
    refine ⟨?_, ?_⟩
    · rintro now rfl
      cases remote
    · rintro id rfl
      cases remote

/-- A machine associates on the user's command, or in Ready when it is meant to reach
DataReady. -/
theorem raises_startup (chosen : loop.Chosen offer branch)
    (raised : branch.Raises offer.clock event) {now : Instant} (startup : event = .lStartup now) :
    branch = .command (some .startup) ∨ (∃ tr, loop.connection.inner.state = .ready tr) ∧
      loop.connection.inner.storage.target = .dataReady := by
  subst startup
  cases branch with
  | transmit packet => cases raised
  | command received =>
    obtain ⟨command, rfl, same⟩ := raised
    cases command with
    | startup => exact Or.inl rfl
    | setup | disconnect | data | shutdown => cases same
  | receive msg => exact absurd raised not_false
  | machine turned =>
    obtain rfl : turned = .raised (.lStartup now) := raised
    rcases turn_raised chosen.2.2.2 with timeout | timeout | timeout | ⟨_, ready, meant⟩
    · cases timeout
    · cases timeout
    · cases timeout
    · exact Or.inr ⟨ready, meant⟩
  | read received => cases raised

end Loop

/-! ### A Shutdown -/

/-- A machine that rests in Ready is not meant to associate; otherwise it has failed or is back
in Idle. -/
def Resting (machine : Fmtp.Connection) : Prop :=
  (∃ tr, machine.state = .ready tr ∧ machine.storage.target ≠ .dataReady) ∨
    machine.state = .error ∨ machine.state = .idle

/-- The action dispatches no LStartup, queues no packet and delivers no message. -/
def Action.Still : Action → Prop
  | .dispatched entry =>
    (∀ now, entry.event ≠ .lStartup now) ∧ entry.packets = [] ∧ entry.messages = []
  | .connected _ _ | .wrote _ _ _ | .shut _ | .sent _ => True

theorem Action.Outward.still {action : Action} (outward : action.Outward) : action.Still := by
  cases action with
  | dispatched entry => exact absurd outward not_false
  | connected | wrote | shut | sent => trivial

/-- A machine in Ready or Error that is not told to associate queues and delivers nothing. -/
theorem Resting.reaction {machine machine' : Fmtp.Connection} {event : Event}
    {packets : List FmtpPacket} {messages : List FmtpMessage} (resting : Resting machine)
    (busy : machine.state ≠ .idle) (other : ∀ now, event ≠ .lStartup now)
    (reaction : Reaction (machine.storage.beforeDispatch event) machine.state event
      machine'.storage machine'.state packets messages) :
    Resting machine' ∧ packets = [] ∧ messages = [] := by
  obtain ⟨state, storage⟩ := machine
  obtain ⟨state', storage'⟩ := machine'
  have target : storage.target ≠ .dataReady →
      (storage.beforeDispatch event).target ≠ .dataReady := by
    intro rests
    cases event with
    | lStartup now => exact absurd rfl (other now)
    | lShutdown | lDisconnect => nofun
    | _ => exact rests
  simp only at busy reaction
  rcases resting with ⟨tr, ready, rests⟩ | failed | idle
  · obtain rfl : state = .ready tr := ready
    cases reaction with
    | ignored quiet configured => exact ⟨Or.inl ⟨tr, rfl, target rests⟩, rfl, rfl⟩
    | released closing configured => exact ⟨Or.inr (Or.inr rfl), rfl, rfl⟩
    | refused unexpected configured => exact ⟨Or.inr (Or.inl rfl), rfl, rfl⟩
    | missing needs absent => exact ⟨Or.inr (Or.inr rfl), rfl, rfl⟩
    | started found => exact absurd rfl (other _)
  · obtain rfl : state = .error := failed
    cases reaction with
    | ignored quiet configured => exact ⟨Or.inr (Or.inl rfl), rfl, rfl⟩
    | released closing configured => cases closing
    | refused unexpected configured => cases unexpected
    | missing needs absent => cases needs
  · exact absurd idle busy

/-- An iteration with a machine that rests outside Idle, and without a Startup. -/
theorem Resting.iterate {loop next : Loop} {offer : Offer}
    (resting : Resting loop.connection.inner) (busy : loop.connection.inner.state ≠ .idle)
    (unstarted : loop.select offer ≠ some (.command (some .startup)))
    (move : loop.iterate offer = some next) :
    Resting next.connection.inner ∧
      Connection.Logs Action.Still loop.connection next.connection := by
  obtain ⟨_, branch, selected, _⟩ := loop.iterate_spec offer move
  have chosen := Loop.select_chosen selected
  have arm : branch ≠ .machine .idle := by
    rintro rfl
    exact busy (turn_idle chosen.2.2.2)
  rcases loop.iterate_cases offer (fun _ outward => outward.still) move selected arm with
    ⟨same, logs⟩ | ⟨entry, raised, reaction, logs⟩
  · rw [same]
    exact ⟨resting, logs⟩
  · have other : ∀ now, entry.event ≠ .lStartup now := by
      intro now startup
      rcases Loop.raises_startup chosen raised startup with rfl | ⟨⟨tr, ready⟩, meant⟩
      · exact unstarted selected
      · rcases resting with ⟨_, _, rests⟩ | failed | idle
        · exact rests meant
        · cases ready.symm.trans failed
        · exact busy idle
    obtain ⟨rests, silent, quiet⟩ := resting.reaction busy other reaction
    exact ⟨rests, logs ⟨other, silent, quiet⟩⟩

/-- The action dispatches no event but the Shutdown, queues nothing but its SHUTDOWN and delivers
no message. -/
def Action.ShutsDown : Action → Prop
  | .dispatched entry =>
    (∃ now, entry.event = .lShutdown now) ∧ (∀ packet ∈ entry.packets, packet = .shutdown) ∧
      entry.messages = []
  | .connected _ _ => False
  | .wrote _ _ _ | .shut _ | .sent _ => True

theorem Action.Outward.shutsDown {action : Action} (outward : action.Outward) :
    action.ShutsDown := by
  cases action with
  | dispatched | connected => exact absurd outward not_false
  | wrote | shut | sent => trivial

/-- A Shutdown of an association leaves the machine resting. -/
theorem Resting.of_shutdown {machine machine' : Fmtp.Connection} {now : Instant}
    {packets : List FmtpPacket} {messages : List FmtpMessage}
    (associated : (∃ tr, machine.state = .associationPending tr) ∨
      ∃ tr ts, machine.state = .dataReady tr ts)
    (reaction : Reaction (machine.storage.beforeDispatch (.lShutdown now)) machine.state
      (.lShutdown now) machine'.storage machine'.state packets messages) :
    Resting machine' ∧ (∀ packet ∈ packets, packet = .shutdown) ∧ messages = [] := by
  obtain ⟨state, storage⟩ := machine
  obtain ⟨state', storage'⟩ := machine'
  have none : ∀ packet : FmtpPacket, packet ∈ [] → packet = .shutdown := List.forall_mem_nil _
  have one : ∀ packet ∈ [FmtpPacket.shutdown], packet = .shutdown :=
    fun packet => List.mem_singleton.mp
  simp only at associated reaction
  rcases associated with ⟨tr, rfl⟩ | ⟨tr, ts, rfl⟩
  · cases reaction with
    | withdrawn found => exact ⟨Or.inl ⟨_, rfl, nofun⟩, one, rfl⟩
    | missing needs absent => exact ⟨Or.inr (Or.inr rfl), none, rfl⟩
    | ignored quiet | released quiet | refused quiet => cases quiet
  · cases reaction with
    | stopped found => exact ⟨Or.inl ⟨_, rfl, nofun⟩, one, rfl⟩
    | missing needs absent => exact ⟨Or.inr (Or.inr rfl), none, rfl⟩
    | closed found closing => rcases closing with ⟨_, same⟩ | same | same <;> cases same
    | refreshed found alive => rcases alive with same | same <;> cases same
    | ignored quiet | released quiet | refused quiet => cases quiet

theorem Resting.states {machine : Fmtp.Connection} (resting : Resting machine) :
    (∃ tr, machine.state = .ready tr) ∨ machine.state = .error ∨ machine.state = .idle := by
  rcases resting with ⟨tr, ready, _⟩ | other
  · exact Or.inl ⟨tr, ready⟩
  · exact Or.inr other

/-- From a Shutdown in AssociationPending or DataReady, and as long as the machine is not back
in Idle and no Startup is received, the machine is in Ready or Error, the loop dispatches no
LStartup, and nothing is queued or delivered beyond the SHUTDOWN. -/
theorem shutdown_honoured {before after last : Loop} {offer : Offer} {offers : List Offer}
    (associated : (∃ tr, before.connection.inner.state = .associationPending tr) ∨
      ∃ tr ts, before.connection.inner.state = .dataReady tr ts)
    (commanded : before.select offer = some (.command (some .shutdown)))
    (move : before.iterate offer = some after) (run : Run Loop.iterate after offers last)
    (meanwhile : EachStep Loop.iterate (fun loop offer => loop.connection.inner.state ≠ .idle ∧
      loop.select offer ≠ some (.command (some .startup))) after offers) :
    Connection.Logs Action.ShutsDown before.connection after.connection ∧
      EachState Loop.iterate (fun loop => (∃ tr, loop.connection.inner.state = .ready tr) ∨
        loop.connection.inner.state = .error ∨ loop.connection.inner.state = .idle)
        after offers ∧
      EachMove Loop.iterate (fun loop _ next =>
        Connection.Logs Action.Still loop.connection next.connection) after offers := by
  have noData : ∀ msg, UserCommand.shutdown ≠ .data msg := nofun
  obtain ⟨entry, raised, reaction, logs⟩ :=
    before.iterate_command offer (fun _ outward => outward.shutsDown) noData move commanded
  have shutdown : entry.event = .lShutdown offer.clock := raised
  rw [shutdown] at reaction
  obtain ⟨resting, queued, quiet⟩ := Resting.of_shutdown associated reaction
  have kept : ∀ (loop : Loop) (offer : Offer) (next : Loop), Resting loop.connection.inner →
      (loop.connection.inner.state ≠ .idle ∧
        loop.select offer ≠ some (.command (some .startup))) →
      loop.iterate offer = some next → Resting next.connection.inner ∧
        (Resting next.connection.inner ∧
          Connection.Logs Action.Still loop.connection next.connection) := by
    rintro loop offer next resting ⟨busy, unstarted⟩ move
    have step := resting.iterate busy unstarted move
    exact ⟨step.1, step⟩
  obtain ⟨_, moves⟩ := EachStep.preserves kept run resting meanwhile
  refine ⟨logs ⟨⟨_, shutdown⟩, queued, quiet⟩, ⟨resting.states, ?_⟩, ?_⟩
  · exact moves.mono fun _ _ _ step => step.1.states
  · exact moves.mono fun _ _ _ step => step.2

namespace Sample

/-- The client of the tests in DataReady. -/
def associated : Loop :=
  (final Loop.iterate (client Fmtp.Sample.clientEntry) association).getD
    (client Fmtp.Sample.clientEntry)

/-- A heartbeat that was on its way. -/
def heartbeatChunk : Chunk := ⟨FmtpPacket.heartbeat.intoBytes, by decide⟩

def shutDown : Loop :=
  (associated.iterate (commanding .shutdown)).getD associated

end Sample

/-- The rest of a session in which the user asked for a shutdown. -/
theorem shutdown_honoured_client :
    Connection.Logs Action.ShutsDown Sample.associated.connection Sample.shutDown.connection ∧
      EachState Loop.iterate (fun loop => (∃ tr, loop.connection.inner.state = .ready tr) ∨
        loop.connection.inner.state = .error ∨ loop.connection.inner.state = .idle)
        Sample.shutDown [Sample.writable, Sample.incoming Sample.heartbeatChunk] ∧
      EachMove Loop.iterate (fun loop _ next =>
        Connection.Logs Action.Still loop.connection next.connection) Sample.shutDown
        [Sample.writable, Sample.incoming Sample.heartbeatChunk] := by
  have associated : ∃ tr ts, Sample.associated.connection.inner.state = .dataReady tr ts :=
    ⟨⟨41⟩, ⟨16⟩, by decide +kernel⟩
  exact shutdown_honoured (Or.inr associated) (by decide +kernel)
    (step_of_enabled _ _ (Sample.commanding .shutdown) (by decide +kernel))
    (Run.of_enabled _ _ _ (by decide +kernel)) (by decide +kernel)

/-! ### A Disconnect -/

/-- A machine that is down is in Idle or has failed. -/
def Down (machine : Fmtp.Connection) : Prop :=
  machine.state = .idle ∨ machine.state = .error

/-- Nothing but a set-up or a TCP connection brings a machine up. -/
theorem Down.reaction {machine machine' : Fmtp.Connection} {event : Event}
    {packets : List FmtpPacket} {messages : List FmtpMessage} (down : Down machine)
    (noSetUp : ∀ id, event ≠ .lSetup id) (noSocket : ∀ now, event ≠ .rSetup now)
    (reaction : Reaction (machine.storage.beforeDispatch event) machine.state event
      machine'.storage machine'.state packets messages) : Down machine' ∧ packets = [] := by
  obtain ⟨state, storage⟩ := machine
  obtain ⟨state', storage'⟩ := machine'
  simp only at reaction
  rcases down with idle | failed
  · obtain rfl : state = .idle := idle
    cases reaction with
    | ignored quiet configured => exact ⟨Or.inl rfl, rfl⟩
    | released closing configured => exact ⟨Or.inl rfl, rfl⟩
    | refused unexpected configured => exact ⟨Or.inr rfl, rfl⟩
    | missing needs absent => cases needs
    | served timed => exact absurd rfl (noSocket _)
    | untimed absent => exact absurd rfl (noSocket _)
    | setUp found => exact absurd rfl (noSetUp _)
    | unknownId absent => exact absurd rfl (noSetUp _)
  · obtain rfl : state = .error := failed
    cases reaction with
    | ignored quiet configured => exact ⟨Or.inr rfl, rfl⟩
    | released closing configured => cases closing
    | refused unexpected configured => cases unexpected
    | missing needs absent => cases needs

/-- A Disconnect takes every machine down. -/
theorem Down.of_disconnect {machine machine' : Fmtp.Connection} {packets : List FmtpPacket}
    {messages : List FmtpMessage}
    (reaction : Reaction (machine.storage.beforeDispatch .lDisconnect) machine.state .lDisconnect
      machine'.storage machine'.state packets messages) : Down machine' := by
  obtain ⟨state, storage⟩ := machine
  obtain ⟨state', storage'⟩ := machine'
  simp only at reaction
  cases reaction with
  | ignored quiet configured =>
    cases state with
    | idle => exact Or.inl rfl
    | error => exact Or.inr rfl
    | connectionPending | idPending | acceptPending | ready | associationPending | dataReady =>
      cases quiet
  | released | missing | abandoned | closed => exact Or.inl rfl
  | refused => exact Or.inr rfl
  | refreshed found alive => rcases alive with same | same <;> cases same

/-- The arm of Idle finds an id with an entry to connect to again (there is no socket, or the
entry is a client's with a retry timer), and some address of it answers. -/
def Dials (loop : Loop) (offer : Offer) : Prop :=
  ∃ id config, loop.connection.inner.storage.id = some id ∧
    loop.connection.inner.storage.config.connections.lookup id = some config ∧
    (loop.socket = none ∨ loop.retryTimer id ≠ none ∧ offer.shutdown = none) ∧
    ∃ index < config.remoteAddresses.length, offer.dial index ≠ none

/-- The arm of Idle is selected and connects again. -/
def Redials (loop : Loop) (offer : Offer) : Prop :=
  loop.select offer = some (.machine .idle) ∧ Dials loop offer

/-- The machine stays down, no socket is opened and no handshake is queued. -/
def StaysDown (before after : Connection) : Prop :=
  Down after.inner ∧ Connection.Logs (¬ ·.Reconnects) before after

theorem StaysDown.of_reports {before after : Connection} (down : Down before.inner)
    (reports : before.Reports after) : StaysDown before after := by
  refine ⟨?_, reports.logs fun _ plain => plain.not_reconnects⟩
  rw [reports.inner]
  exact down

theorem StaysDown.trans {before middle after : Connection} (left : StaysDown before middle)
    (right : StaysDown middle after) : StaysDown before after :=
  ⟨right.1, left.2.trans right.2⟩

namespace Loop

variable {loop : Loop} {offer : Offer}

/-- Where no address of the id's entry answers, connecting leaves the machine in Idle. -/
theorem reconnect_silent {id : String} {otherwise : Loop → Loop}
    (idle : loop.connection.inner.state = .idle)
    (silent : ∀ config, loop.connection.inner.storage.config.connections.lookup id = some config →
      ∀ index < config.remoteAddresses.length, offer.dial index = none)
    (down : ∀ loop : Loop, Down loop.connection.inner →
      StaysDown loop.connection (otherwise loop).connection) :
    StaysDown loop.connection (loop.reconnect offer id otherwise).connection := by
  unfold reconnect Connection.connect
  cases found : loop.connection.inner.storage.config.connections.lookup id with
  | none => exact down loop (Or.inl idle)
  | some config =>
    have dialable : Dialable id config loop.connection := ⟨idle, found⟩
    obtain ⟨next, actions, dialled, again, tried⟩ :=
      dialable.dialAll_refused loop.sockets (silent config found)
    simp only [dialled]
    have stays : StaysDown loop.connection next :=
      ⟨Or.inl again.idle, actions, tried.log, tried.quiet⟩
    exact stays.trans (down { loop with connection := next } (Or.inl again.idle))

/-- Where an address of the id's entry answers, connecting opens a socket. -/
theorem reconnect_answered {id : String} {otherwise : Loop → Loop} {config : ConnectionConfig}
    (idle : loop.connection.inner.state = .idle)
    (found : loop.connection.inner.storage.config.connections.lookup id = some config)
    (answers : ∃ index < config.remoteAddresses.length, offer.dial index ≠ none) :
    ∃ address actions,
      (loop.reconnect offer id otherwise).connection.log = loop.connection.log ++ actions ∧
        .connected loop.sockets address ∈ actions := by
  have dialable : Dialable id config loop.connection := ⟨idle, found⟩
  rcases exists_first_answer offer.dial config.remoteAddresses with
    silent | ⟨before, address, rest, now, listed, silent, answer⟩
  · obtain ⟨index, bound, some⟩ := answers
    exact absurd (silent index bound) some
  · obtain ⟨next, actions, dialled, answered⟩ :=
      dialable.dialAll_answered loop.sockets silent answer address rest
    refine ⟨address, actions, ?_, answered.connected⟩
    unfold reconnect Connection.connect
    simp only [found, listed, dialled]
    exact answered.log

theorem leave_staysDown (down : Down loop.connection.inner) (offer : Offer) :
    StaysDown loop.connection (loop.leave offer).connection :=
  .of_reports down (loop.leave_reports offer)

theorem idleArm_staysDown (idle : loop.connection.inner.state = .idle)
    (silent : ¬ Dials loop offer) :
    StaysDown loop.connection (loop.idleArm offer).connection := by
  have down : Down loop.connection.inner := Or.inl idle
  unfold idleArm
  cases known : loop.connection.inner.storage.id with
  | none => exact leave_staysDown down offer
  | some id =>
    have refused : (loop.socket = none ∨ loop.retryTimer id ≠ none ∧ offer.shutdown = none) →
        ∀ config, loop.connection.inner.storage.config.connections.lookup id = some config →
          ∀ index < config.remoteAddresses.length, offer.dial index = none := by
      intro again config found index bound
      by_contra answers
      exact silent ⟨id, config, known, found, again, index, bound, answers⟩
    cases socketed : loop.socket with
    | none =>
      refine reconnect_silent idle (refused (Or.inl socketed)) fun loop down => ?_
      cases loop.retryTimer id with
      | none => exact leave_staysDown down offer
      | some timer => exact .of_reports down (.refl _)
    | some socket =>
      cases timed : loop.retryTimer id with
      | none =>
        simp only [timed]
        exact leave_staysDown down offer
      | some timer =>
        simp only [timed]
        have plain : (Action.shut socket).Plain := trivial
        have shut : StaysDown loop.connection (loop.record (.shut socket)).connection :=
          .of_reports down (Connection.reports_record _ plain)
        cases closed : offer.shutdown with
        | some text => exact shut
        | none =>
          have some : loop.retryTimer id ≠ none := by
            rw [timed]
            exact Option.some_ne_none timer
          have silent := refused (Or.inr ⟨some, closed⟩)
          refine shut.trans ?_
          exact reconnect_silent idle silent fun loop down => .of_reports down (.refl _)

theorem idleArm_dials (idle : loop.connection.inner.state = .idle) (dials : Dials loop offer) :
    ∃ address actions, (loop.idleArm offer).connection.log = loop.connection.log ++ actions ∧
      .connected loop.sockets address ∈ actions := by
  obtain ⟨id, config, known, found, again, answers⟩ := dials
  unfold idleArm
  rw [known]
  cases socketed : loop.socket with
  | none => exact reconnect_answered idle found answers
  | some socket =>
    rcases again with absent | ⟨timed, open_⟩
    · cases socketed.symm.trans absent
    · obtain ⟨timer, timed⟩ := Option.ne_none_iff_exists'.mp timed
      simp only [timed, open_]
      have shut : (loop.record (.shut socket)).connection.inner.state = .idle := idle
      obtain ⟨address, actions, logged, member⟩ := reconnect_answered shut found answers
      refine ⟨address, .shut socket :: actions, ?_, List.mem_cons_of_mem _ member⟩
      rw [logged]
      show loop.connection.log ++ [.shut socket] ++ actions = _
      rw [List.append_assoc]
      rfl

/-- An iteration of a machine that is down, in which no Setup is received and the arm of Idle
does not connect again. -/
theorem iterate_staysDown {next : Loop} (down : Down loop.connection.inner)
    (unset : ∀ id, loop.select offer ≠ some (.command (some (.setup id))))
    (quiet : ¬ Redials loop offer) (move : loop.iterate offer = some next) :
    StaysDown loop.connection next.connection := by
  obtain ⟨_, branch, selected, reports⟩ := loop.iterate_spec offer move
  have chosen := select_chosen selected
  by_cases arm : branch = .machine .idle
  · subst arm
    have idle : loop.connection.inner.state = .idle := turn_idle chosen.2.2.2
    have silent : ¬ Dials loop.pop offer := fun dials => quiet ⟨selected, dials⟩
    have stays : StaysDown loop.connection (loop.pop.idleArm offer).connection :=
      loop.pop.idleArm_staysDown idle silent
    exact stays.trans (.of_reports stays.1 reports)
  · have calm : ∀ action : Action, action.Outward → ¬ action.Reconnects := by
      intro action outward
      cases action with
      | dispatched | connected => exact absurd outward not_false
      | wrote | shut | sent => exact not_false
    rcases loop.iterate_cases offer calm move selected arm with
      ⟨same, logs⟩ | ⟨entry, raised, reaction, logs⟩
    · refine ⟨?_, logs⟩
      rw [same]
      exact down
    · obtain ⟨noSocket, setUp⟩ := raises_setUp chosen raised
      have noSetUp : ∀ id, entry.event ≠ .lSetup id := by
        intro id same
        exact unset id (by rw [selected, setUp id same])
      obtain ⟨stays, none⟩ := down.reaction noSetUp noSocket reaction
      exact ⟨stays, logs (Action.not_reconnects_of_nil none)⟩

/-- An iteration that connects again opens a socket. -/
theorem iterate_redials {next : Loop} (redials : Redials loop offer)
    (move : loop.iterate offer = some next) :
    ¬ Connection.Logs (¬ ·.Reconnects) loop.connection next.connection := by
  rintro ⟨actions, logged, each⟩
  obtain ⟨_, branch, selected, reports⟩ := loop.iterate_spec offer move
  obtain rfl := Option.some.inj (selected.symm.trans redials.1)
  have idle : loop.connection.inner.state = .idle := turn_idle (select_chosen selected).2.2.2
  have dials : Dials loop.pop offer := redials.2
  obtain ⟨address, opened, arm, member⟩ := loop.pop.idleArm_dials idle dials
  obtain ⟨later, stays, _⟩ := reports
  have log : loop.connection.log ++ actions = loop.connection.log ++ (opened ++ later) := by
    rw [← logged, stays.log, ← List.append_assoc]
    exact congrArg (· ++ later) arm
  rw [List.append_cancel_left log] at each
  exact each _ (List.mem_append_left later member) trivial

end Loop

/-- From a Disconnect on, and as long as no Setup is received, the loop opens no TCP connection
and queues no handshake, if and only if the arm of Idle never connects again. -/
theorem disconnect_exact {before after last : Loop} {offer : Offer} {offers : List Offer}
    (commanded : before.select offer = some (.command (some .disconnect)))
    (move : before.iterate offer = some after) (run : Run Loop.iterate after offers last)
    (unset : EachStep Loop.iterate (fun loop offer =>
      ∀ id, loop.select offer ≠ some (.command (some (.setup id)))) after offers) :
    EachMove Loop.iterate (fun loop _ next =>
        Connection.Logs (¬ ·.Reconnects) loop.connection next.connection) after offers ↔
      EachStep Loop.iterate (fun loop offer => ¬ Redials loop offer) after offers := by
  have noData : ∀ msg, UserCommand.disconnect ≠ .data msg := nofun
  obtain ⟨entry, raised, reaction, _⟩ :=
    before.iterate_command offer (fun _ _ => trivial) noData move commanded
  have disconnect : entry.event = .lDisconnect := raised
  rw [disconnect] at reaction
  have down : Down after.connection.inner := .of_disconnect reaction
  have kept : ∀ (loop : Loop) (offer : Offer) (next : Loop), Down loop.connection.inner →
      (∀ id, loop.select offer ≠ some (.command (some (.setup id)))) → ¬ Redials loop offer →
      loop.iterate offer = some next → Down next.connection.inner ∧
        Connection.Logs (¬ ·.Reconnects) loop.connection next.connection :=
    fun _ _ _ down unset quiet move => Loop.iterate_staysDown down unset quiet move
  have broken : ∀ (loop : Loop) (offer : Offer) (next : Loop), Down loop.connection.inner →
      (∀ id, loop.select offer ≠ some (.command (some (.setup id)))) → ¬ ¬ Redials loop offer →
      loop.iterate offer = some next →
        ¬ Connection.Logs (¬ ·.Reconnects) loop.connection next.connection :=
    fun _ _ _ _ _ redials move => Loop.iterate_redials (not_not.mp redials) move
  exact eachMove_iff_eachStep kept broken run down unset

/-- The sockets opened in a log. -/
def opened (log : List Action) : List Nat :=
  log.filterMap fun
    | .connected socket _ => some socket
    | _ => none

theorem opened_of_logs {before after : Connection}
    (logs : Connection.Logs (¬ ·.Reconnects) before after) :
    opened after.log = opened before.log := by
  obtain ⟨actions, logged, each⟩ := logs
  have none : opened actions = [] := by
    refine List.filterMap_eq_nil_iff.mpr fun action member => ?_
    cases action with
    | connected socket address => exact absurd trivial (each _ member)
    | dispatched | wrote | shut | sent => rfl
  rw [logged, opened, List.filterMap_append, ← opened, ← opened, none, List.append_nil]

namespace Sample

/-- The client of an entry, associated, after its user asked to disconnect. -/
def disconnecting (entry : ConnectionConfig) : Loop :=
  (final Loop.iterate (client entry) association).getD (client entry)

def disconnected (entry : ConnectionConfig) : Loop :=
  ((disconnecting entry).iterate (commanding .disconnect)).getD (disconnecting entry)

/-- The entry of the tests, with a retry timer. -/
def retryingEntry : ConnectionConfig :=
  { Fmtp.Sample.clientEntry with connectRetryTimer := some 5 }

end Sample

/-- The packets are transmitted, then every address answers. -/
def Sample.afterwards : List Offer := [Sample.writable, Sample.answering]

theorem Sample.afterwards_unset (loop : Loop) :
    EachStep Loop.iterate (fun loop offer =>
      ∀ id, loop.select offer ≠ some (.command (some (.setup id)))) loop Sample.afterwards := by
  have silent : ∀ offer ∈ Sample.afterwards, offer.command = none := by
    intro offer member
    fin_cases member <;> rfl
  refine (eachStep_of_forall loop silent).mono fun loop offer _ quiet id selected => ?_
  cases quiet.symm.trans (Loop.select_chosen selected).2

/-- The client without a retry timer transmits its SHUTDOWN and leaves the loop. -/
theorem disconnect_exact_client :
    EachMove Loop.iterate (fun loop _ next =>
        Connection.Logs (¬ ·.Reconnects) loop.connection next.connection)
        (Sample.disconnected Fmtp.Sample.clientEntry) Sample.afterwards ↔
      EachStep Loop.iterate (fun loop offer => ¬ Redials loop offer)
        (Sample.disconnected Fmtp.Sample.clientEntry) Sample.afterwards := by
  have session : (Sample.disconnecting Fmtp.Sample.clientEntry).select
        (Sample.commanding .disconnect) = some (.command (some .disconnect)) ∧
      ((Sample.disconnecting Fmtp.Sample.clientEntry).iterate
        (Sample.commanding .disconnect)).isSome = true ∧
      (final Loop.iterate (Sample.disconnected Fmtp.Sample.clientEntry)
        Sample.afterwards).isSome = true := by
    decide +kernel
  obtain ⟨selected, enabled, rest⟩ := session
  exact disconnect_exact selected (step_of_enabled _ _ _ enabled) (Run.of_enabled _ _ _ rest)
    (Sample.afterwards_unset _)

/-- A client with a retry timer connects again although its user asked to disconnect. -/
theorem disconnect_ignored : ¬ ∀ (before after last : Loop) (offer : Offer) (offers : List Offer),
    before.select offer = some (.command (some .disconnect)) →
    before.iterate offer = some after → Run Loop.iterate after offers last →
    EachStep Loop.iterate (fun loop offer =>
      ∀ id, loop.select offer ≠ some (.command (some (.setup id)))) after offers →
    EachMove Loop.iterate (fun loop _ next =>
      Connection.Logs (¬ ·.Reconnects) loop.connection next.connection) after offers := by
  intro claim
  have session : (Sample.disconnecting Sample.retryingEntry).select
        (Sample.commanding .disconnect) = some (.command (some .disconnect)) ∧
      ((Sample.disconnecting Sample.retryingEntry).iterate
        (Sample.commanding .disconnect)).isSome = true ∧
      (final Loop.iterate (Sample.disconnected Sample.retryingEntry)
        Sample.afterwards).isSome = true ∧
      ¬ EachMove Loop.iterate (fun loop _ next =>
        opened next.connection.log = opened loop.connection.log)
        (Sample.disconnected Sample.retryingEntry) Sample.afterwards := by
    decide +kernel
  obtain ⟨selected, enabled, rest, opens⟩ := session
  have calm := claim _ _ _ _ _ selected (step_of_enabled _ _ _ enabled)
    (Run.of_enabled _ _ _ rest) (Sample.afterwards_unset _)
  exact opens (calm.mono fun _ _ _ logs => opened_of_logs logs)

end Fmtp.Tokio

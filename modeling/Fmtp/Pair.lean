/-
This file models a client and a server linked by two reliable first-in first-out channels,
and proves that the pair represents a session of the abstract model: phases for states, and
one path for the send queue and the channel after it. A step that collides with nothing is a
move of the session, a step that collides ends in Error.
-/

import Fmtp.Codec
import Fmtp.Peers

open TransitionSystem

namespace Fmtp

/-! ### The pair and its steps -/

/-- A machine, its queues, and the messages it was given by its user so far. -/
structure Peer where
  machine : Connection
  ctx : ConnectionContext
  given : List FmtpMessage

/-- The wire of a side holds what it has transmitted and the other side has not read. -/
structure Pair where
  peer : Side → Peer
  wire : Side → List FmtpPacket

/-- A peer transmits its next packet, reads the next packet of the other side, or takes an event
of its user, of a timer or of the transport. -/
inductive Deed
  | transmit
  | deliver (now : Instant)
  | act (event : Event)
deriving DecidableEq

structure Label where
  side : Side
  deed : Deed
deriving DecidableEq

/-- The message of a user's data command. -/
def Event.given : Event → List FmtpMessage
  | .lData _ msg => [msg]
  | _ => []

/-- A peer reads between its setup and its end, but a Ready peer that is to associate takes its
startup first. -/
def Connection.reads (machine : Connection) : Bool :=
  match machine.state with
  | .idPending _ | .acceptPending _ | .associationPending _ | .dataReady _ _ => true
  | .ready _ => machine.storage.target ≠ .dataReady
  | .idle | .connectionPending | .error => false

/-- The states in which a peer has a connection that can end. -/
def State.connected : State → Bool
  | .idPending _ | .acceptPending _ | .ready _ | .associationPending _ | .dataReady _ _ => true
  | .idle | .connectionPending | .error => false

/-- The packets that a state refuses although a correct peer may send them. -/
def State.collides (state : State) (packet : FmtpPacket) : Bool :=
  let carriesData := packet.header.typ = .operational ∨ packet.header.typ = .operator
  match state with
  | .ready _ => packet.isStartup ∨ carriesData
  | .associationPending _ => packet.isShutdown ∨ packet.isHeartbeat ∨ carriesData
  | .idle | .connectionPending | .idPending _ | .acceptPending _ | .dataReady _ _ | .error =>
    false

namespace Peer

def new (machine : Connection) : Peer where
  machine := machine
  ctx := .empty
  given := []

/-- The peer handles an event. -/
def dispatch (peer : Peer) (event : Event) : Option Peer :=
  match peer.machine.handleWithContext event peer.ctx with
  | .ok (machine, ctx) => some { machine, ctx, given := peer.given ++ event.given }
  | .error _ => none

end Peer

namespace Pair

/-- What the user, the timers and the transport may do to a side. Users start in Ready, shut
down and send in the states of the association, and disconnect at any time; each timer runs in
its own states; a connection ends after the other side has gone and its wire is read. -/
def may (pair : Pair) (side : Side) (event : Event) : Bool :=
  match event, (pair.peer side).machine.state with
  | .lDisconnect, _ => true
  | .lStartup _, .ready _ => true
  | .lShutdown _, .associationPending _ | .lShutdown _, .dataReady _ _ => true
  | .lData _ msg, .dataReady _ _ => msg.data.length ≤ 10240
  | .tiTimeout, .idPending _ | .tiTimeout, .acceptPending _ => true
  | .trTimeout _, .associationPending _ | .trTimeout _, .dataReady _ _ => true
  | .tsTimeout _, .dataReady _ _ => true
  | .rDisconnect, state =>
    state.connected ∧ (pair.peer side.other).machine.state = .idle ∧ pair.wire side.other = []
  | _, _ => false

/-- The side handles an event. -/
def dispatch (pair : Pair) (side : Side) (event : Event) : Option Pair :=
  ((pair.peer side).dispatch event).map fun peer =>
    { pair with peer := Function.update pair.peer side peer }

def step (pair : Pair) (label : Label) : Option Pair :=
  let peer := pair.peer label.side
  match label.deed with
  | .transmit =>
    match peer.ctx.pollTransmit with
    | (none, _) => none
    | (some packet, ctx) =>
      some { peer := Function.update pair.peer label.side { peer with ctx }
             wire := Function.update pair.wire label.side (pair.wire label.side ++ [packet]) }
  | .deliver now =>
    match peer.machine.reads, pair.wire label.side.other with
    | true, packet :: rest =>
      match Event.fromIncomingPacket packet.intoBytes.length packet now
          peer.machine.storage.config peer.machine.storage.id with
      | .ok event =>
        { pair with wire := Function.update pair.wire label.side.other rest }.dispatch label.side
          event
      | .error _ => none
    | _, _ => none
  | .act event => if pair.may label.side event then pair.dispatch label.side event else none

/-- The next packet that a side reads is one that its state refuses. -/
def Collides (pair : Pair) (label : Label) : Prop :=
  match label.deed, pair.wire label.side.other with
  | .deliver _, packet :: _ => (pair.peer label.side).machine.state.collides packet = true
  | _, _ => False

instance (pair : Pair) (label : Label) : Decidable (pair.Collides label) := by
  unfold Collides
  split <;> infer_instance

/-- Neither side is in Error. -/
def Sound (pair : Pair) : Prop :=
  ∀ side, (pair.peer side).machine.state ≠ .error

instance (pair : Pair) : Decidable pair.Sound :=
  inferInstanceAs (Decidable (∀ side, (pair.peer side).machine.state ≠ .error))

/-- What a label needs besides a handler that does not panic. -/
def Offers (pair : Pair) (label : Label) : Prop :=
  match label.deed with
  | .transmit => (pair.peer label.side).ctx.sendQueue ≠ []
  | .deliver _ => (pair.peer label.side).machine.reads = true ∧ pair.wire label.side.other ≠ []
  | .act event => pair.may label.side event = true

/-- Both parties past the setup: the client after its own, the server after an accept. -/
def start (mirror : Mirror) (clientId : Option String) (clientNow serverNow : Instant) :
    Option Pair :=
  ((Peer.new (.new (mirror.config .client) clientId)).dispatch
      (.lSetup (mirror.key .client))).bind fun client =>
    (client.dispatch (.rSetup clientNow)).bind fun client =>
      ((Peer.new (.new (mirror.config .server) none)).dispatch (.rSetup serverNow)).map
        fun server =>
          { peer := fun
              | .client => client
              | .server => server
            wire := fun _ => [] }

end Pair

/-! ### Representing a session -/

/-- The triggers by which a deed moves the session. -/
def Deed.Prompts (key : String) : Deed → Trigger → Prop
  | .transmit, _ => False
  | .deliver _, trigger => ∃ signal, trigger = .read signal
  | .act event, trigger => Means key event trigger ∧ ∀ signal, trigger ≠ .read signal

/-- The pair stands for the session: each machine for a phase, the wire and the queue before it
for a path. -/
structure Represents (mirror : Mirror) (pair : Pair) (session : Session) : Prop where
  settled : ∀ side, Settled mirror side (pair.peer side).machine
  phase : ∀ side, session.phase side = (pair.peer side).machine.phase
  path : ∀ side, pair.wire side ++ (pair.peer side).ctx.sendQueue =
    (session.path side).map (mirror.packet side)
  given : ∀ side, session.given side = (pair.peer side).given
  received : ∀ side, session.received side = (pair.peer side).ctx.recvQueue

theorem Connection.reads_iff {machine : Connection} :
    machine.reads = true ↔ machine.phase.Reads := by
  unfold reads phase
  cases machine.state with
  | ready tr =>
    by_cases target : machine.storage.target = .dataReady
    · simp [target, Phase.Reads]
    · simp [target, Phase.Reads]
  | _ => simp [Phase.Reads]

theorem Settled.state_ne {mirror : Mirror} {side : Side} {machine : Connection}
    (settled : Settled mirror side machine) : machine.state ≠ .error := by
  intro error
  have phase := Connection.phase_error.mpr error
  rcases settled with idle | present
  · cases idle.symm.trans phase
  · rcases present.inside with same | same | open_
    · cases same.symm.trans phase
    · cases same.symm.trans phase
    · rw [phase] at open_
      exact open_

theorem Settled.phase_cases {mirror : Mirror} {side : Side} {machine : Connection}
    (settled : Settled mirror side machine) :
    machine.phase = .idle ∨ machine.phase = .idPending ∨ machine.phase = .acceptPending ∨
      machine.phase.Open :=
  settled.imp id Present.inside

/-- A packet collides with the state of a reader as its signal does with the phase. -/
theorem Mirror.collides_iff (mirror : Mirror) (sender : Side) {machine : Connection}
    (reads : machine.reads = true) (signal : Signal) :
    machine.state.collides (mirror.packet sender signal) = machine.phase.collides signal := by
  have typed : ∀ msg : SmallMessage, (packetOf msg).header.typ = .operational ∨
      (packetOf msg).header.typ = .operator := by
    rintro ⟨operational | operator, small⟩
    · exact Or.inl rfl
    · exact Or.inr rfl
  obtain ⟨state, storage⟩ := machine
  cases state with
  | idle | connectionPending | error => cases reads
  | idPending | acceptPending | dataReady => cases signal <;> rfl
  | ready tr =>
    have target : storage.target ≠ .dataReady := of_decide_eq_true reads
    have resting : Connection.phase ⟨.ready tr, storage⟩ = .resting := if_neg target
    rw [resting]
    cases signal with
    | data msg => exact decide_eq_true (Or.inr (typed msg))
    | handshake | accept | startup | shutdown | heartbeat => rfl
  | associationPending tr =>
    cases signal with
    | data msg => exact decide_eq_true (Or.inr (Or.inr (typed msg)))
    | handshake | accept | startup | shutdown | heartbeat => rfl

theorem Means.given {key : String} {event : Event} {trigger : Trigger}
    (means : Means key event trigger) : event.given = trigger.gives := by
  cases means with
  | read signal => cases signal <;> rfl
  | _ => rfl

/-- A peer that handles an event reacts to it. -/
theorem Peer.dispatch_cases {peer peer' : Peer} {event : Event}
    (dispatched : peer.dispatch event = some peer') :
    ∃ machine' packets messages,
      Reaction (peer.machine.storage.beforeDispatch event) peer.machine.state event
        machine'.storage machine'.state packets messages ∧
      peer' = { machine := machine', ctx := peer.ctx.extend packets messages,
                given := peer.given ++ event.given } := by
  unfold dispatch at dispatched
  split at dispatched
  · rename_i machine' ctx' handled
    obtain ⟨packets, messages, reaction, rfl⟩ := Connection.handleWithContext_reaction handled
    exact ⟨machine', packets, messages, reaction, (Option.some.inj dispatched).symm⟩
  · cases dispatched

namespace Pair

variable {pair pair' : Pair} {side : Side} {event : Event}

/-- A side that handles an event leaves the other side alone. -/
theorem dispatch_cases (dispatched : pair.dispatch side event = some pair') :
    ∃ machine' packets messages,
      Reaction ((pair.peer side).machine.storage.beforeDispatch event)
        (pair.peer side).machine.state event machine'.storage machine'.state packets messages ∧
      pair' = { pair with
        peer := Function.update pair.peer side
          { machine := machine', ctx := (pair.peer side).ctx.extend packets messages,
            given := (pair.peer side).given ++ event.given } } := by
  obtain ⟨peer', handled, rfl⟩ := Option.map_eq_some_iff.mp dispatched
  obtain ⟨machine', packets, messages, reaction, rfl⟩ := Peer.dispatch_cases handled
  exact ⟨machine', packets, messages, reaction, rfl⟩

theorem may_small {now : Instant} {msg : FmtpMessage}
    (allowed : pair.may side (.lData now msg) = true) : msg.data.length ≤ 10240 := by
  cases state : (pair.peer side).machine.state with
  | dataReady tr ts => simpa [may, state] using allowed
  | _ => simp [may, state] at allowed

/-- No event of a correct user or of a correct peer makes a side panic. -/
theorem dispatch_isSome (small : ∀ now msg, event = .lData now msg → msg.data.length ≤ 10240) :
    (pair.dispatch side event).isSome = true := by
  obtain ⟨machine', context', handled⟩ := (pair.peer side).machine.handleWithContext_ok
    (pair.peer side).ctx fun now msg given => ⟨_, fromMsg_small ⟨msg, small now msg given⟩⟩
  unfold dispatch Peer.dispatch
  rw [handled]
  rfl

/-- A party that is there or has gone can be disconnected by its user. -/
theorem disconnect_moves (side : Side) {phase : Phase}
    (settled : phase = .idle ∨ phase = .idPending ∨ phase = .acceptPending ∨ phase.Open) :
    ∃ phase' signals, Move side phase .disconnect phase' signals := by
  rcases settled with rfl | rfl | rfl | open_
  · exact ⟨_, _, .released rfl⟩
  · exact ⟨_, _, .released rfl⟩
  · exact ⟨_, _, .released rfl⟩
  · cases phase with
    | starting | resting => exact ⟨_, _, .released rfl⟩
    | associationPending | dataReady => exact ⟨_, _, .closed rfl⟩
    | idle | connectionPending | idPending | acceptPending | error =>
      exact absurd open_ not_false

/-- A party that is there can lose its connection. -/
theorem closed_moves (side : Side) {phase : Phase}
    (settled : phase = .idPending ∨ phase = .acceptPending ∨ phase.Open) :
    ∃ phase' signals, Move side phase .closed phase' signals := by
  rcases settled with rfl | rfl | open_
  · exact ⟨_, _, .released rfl⟩
  · exact ⟨_, _, .released rfl⟩
  · cases phase with
    | starting | resting | associationPending => exact ⟨_, _, .released rfl⟩
    | dataReady => exact ⟨_, _, .closed rfl⟩
    | idle | connectionPending | idPending | acceptPending | error =>
      exact absurd open_ not_false

/-- What a side may do besides reading is a move of its phase. -/
theorem may_moves {mirror : Mirror} (settled : Settled mirror side (pair.peer side).machine)
    (allowed : pair.may side event = true) (key : String) :
    ∃ trigger phase' signals, Means key event trigger ∧ (∀ signal, trigger ≠ .read signal) ∧
      Move side (pair.peer side).machine.phase trigger phase' signals := by
  generalize known : pair.peer side = peer at settled
  obtain ⟨⟨state, storage⟩, ctx, given⟩ := peer
  unfold may at allowed
  rw [known] at allowed
  simp only at allowed
  split at allowed
  · obtain ⟨phase', signals, move⟩ := disconnect_moves side settled.phase_cases
    exact ⟨_, phase', signals, .disconnect, nofun, move⟩
  · rename_i now tr
    refine ⟨_, _, _, .startup now, nofun, .started ?_⟩
    show (if storage.target = .dataReady then Phase.starting else .resting) = .starting ∨ _
    split_ifs with target
    · exact Or.inl rfl
    · exact Or.inr (if_neg target)
  · rename_i now tr
    exact ⟨_, _, _, .shutdown now, nofun, .withdrawn (Or.inl rfl)⟩
  · rename_i now tr ts
    exact ⟨_, _, _, .shutdown now, nofun, .withdrawn (Or.inr rfl)⟩
  · rename_i now msg tr ts
    exact ⟨_, _, _, .data now ⟨msg, of_decide_eq_true allowed⟩, nofun, .sent⟩
  · exact ⟨_, _, _, .ti, nofun, .released rfl⟩
  · exact ⟨_, _, _, .ti, nofun, .released rfl⟩
  · rename_i now tr
    exact ⟨_, _, _, .tr now, nofun, .restarted⟩
  · rename_i now tr ts
    exact ⟨_, _, _, .tr now, nofun, .closed rfl⟩
  · rename_i now tr ts
    exact ⟨_, _, _, .ts now, nofun, .kept⟩
  · have connected : state.connected = true := (of_decide_eq_true allowed).1
    have inside := settled.phase_cases.resolve_left (by
      rw [Connection.phase_idle]
      rintro rfl
      cases connected)
    obtain ⟨phase', signals, move⟩ := closed_moves side inside
    exact ⟨_, phase', signals, .closed, nofun, move⟩
  · cases allowed

end Pair

namespace Represents

variable {mirror : Mirror} {pair pair' : Pair} {session : Session} {side : Side} {event : Event}
  {trigger : Trigger} {phase' : Phase} {signals rest : List Signal}

/-- A peer that makes a move of its phase makes it in the session. -/
theorem advance (represents : Represents mirror pair session)
    (means : Means (mirror.key side) event trigger)
    (move : Move side (session.phase side) trigger phase' signals)
    (left : List FmtpPacket)
    (front : left ++ (pair.peer side.other).ctx.sendQueue = rest.map (mirror.packet side.other))
    (dispatched : Pair.dispatch
      { pair with wire := Function.update pair.wire side.other left } side event = some pair') :
    Represents mirror pair' (session.advance side trigger phase' signals rest) := by
  obtain ⟨machine', packets, messages, reaction, rfl⟩ := Pair.dispatch_cases dispatched
  rw [represents.phase side] at move
  have follows := (represents.settled side).simulates move means reaction
  have distinct : side ≠ side.other := side.other_ne.symm
  refine ⟨fun which => ?_, fun which => ?_, fun which => ?_, fun which => ?_, fun which => ?_⟩
  all_goals rcases side.eq_or_other which with rfl | rfl
  · simpa only [Function.update_self] using follows.settled
  · simpa only [Function.update_of_ne side.other_ne] using represents.settled side.other
  · simp only [Session.advance, Function.update_self, follows.phase]
  · simp only [Session.advance, Function.update_of_ne side.other_ne, represents.phase]
  · simp only [Session.advance, Function.update_self, Function.update_of_ne distinct,
      ConnectionContext.extend]
    rw [← List.append_assoc, represents.path, follows.packets, List.map_append]
  · simp only [Session.advance, Function.update_self, Function.update_of_ne side.other_ne]
    exact front
  · simp only [Session.advance, Function.update_self, represents.given, means.given]
  · simp only [Session.advance, Function.update_of_ne side.other_ne, represents.given]
  · simp only [Session.advance, Function.update_self, represents.received,
      ConnectionContext.extend, follows.messages]
  · simp only [Session.advance, Function.update_of_ne side.other_ne, represents.received]

/-- A packet moves from the queue to the wire. -/
theorem transmit (represents : Represents mirror pair session)
    (move : pair.step ⟨side, .transmit⟩ = some pair') : Represents mirror pair' session := by
  unfold Pair.step at move
  simp only [ConnectionContext.pollTransmit] at move
  cases queue : (pair.peer side).ctx.sendQueue with
  | nil =>
    rw [queue] at move
    cases move
  | cons packet rest =>
    rw [queue] at move
    obtain rfl := Option.some.inj move
    refine ⟨fun which => ?_, fun which => ?_, fun which => ?_, fun which => ?_, fun which => ?_⟩
    all_goals rcases side.eq_or_other which with rfl | rfl
    · simpa only [Function.update_self] using represents.settled which
    · simpa only [Function.update_of_ne side.other_ne] using represents.settled side.other
    · simpa only [Function.update_self] using represents.phase which
    · simpa only [Function.update_of_ne side.other_ne] using represents.phase side.other
    · have path := represents.path which
      rw [queue] at path
      simpa only [Function.update_self, List.append_assoc, List.singleton_append, List.tail_cons]
        using path
    · simpa only [Function.update_of_ne side.other_ne] using represents.path side.other
    · simpa only [Function.update_self] using represents.given which
    · simpa only [Function.update_of_ne side.other_ne] using represents.given side.other
    · simpa only [Function.update_self] using represents.received which
    · simpa only [Function.update_of_ne side.other_ne] using represents.received side.other

/-- An event of the user, a timer or the transport is a move. -/
theorem act (represents : Represents mirror pair session)
    (move : pair.step ⟨side, .act event⟩ = some pair') :
    ∃ trigger phase' signals, Means (mirror.key side) event trigger ∧
      (∀ signal, trigger ≠ .read signal) ∧
      Move side (session.phase side) trigger phase' signals ∧
      Represents mirror pair'
        (session.advance side trigger phase' signals (session.path side.other)) := by
  unfold Pair.step at move
  simp only at move
  split at move
  · rename_i allowed
    obtain ⟨trigger, phase', signals, means, silent, moves⟩ :=
      Pair.may_moves (represents.settled side) allowed (mirror.key side)
    rw [← represents.phase side] at moves
    refine ⟨trigger, phase', signals, means, silent, moves, ?_⟩
    refine represents.advance means moves (pair.wire side.other) (represents.path side.other) ?_
    rw [Function.update_eq_self]
    exact move
  · cases move

/-- The next packet on the wire is the front of the path, and its event is that of the signal. -/
theorem incoming {packet : FmtpPacket} {left : List FmtpPacket} (now : Instant)
    (represents : Represents mirror pair session) (configured : session.Configured Loose)
    (reads : (pair.peer side).machine.reads = true)
    (onWire : pair.wire side.other = packet :: left) :
    ∃ signal rest, session.path side.other = signal :: rest ∧
      left ++ (pair.peer side.other).ctx.sendQueue = rest.map (mirror.packet side.other) ∧
      (pair.Collides ⟨side, .deliver now⟩ ↔ (session.phase side).collides signal = true) ∧
      Event.fromIncomingPacket packet.intoBytes.length packet now
        (pair.peer side).machine.storage.config (pair.peer side).machine.storage.id =
        .ok (signal.event (mirror.key side) now) := by
  have path := represents.path side.other
  rw [onWire, List.cons_append] at path
  obtain ⟨signal, rest, same, named, after⟩ := List.map_eq_cons_iff.mp path.symm
  have reading : (session.phase side).Reads := by
    rw [represents.phase]
    exact Connection.reads_iff.mp reads
  have present : Present mirror side (pair.peer side).machine :=
    (represents.settled side).resolve_left fun idle => by
      rw [represents.phase, idle] at reading
      exact reading
  have greeted : signal = .handshake → session.phase side = .idPending := by
    rintro rfl
    rcases configured.reads reading same with collides | ⟨_, _, moves⟩
    · rw [Phase.collides_handshake] at collides
      cases collides
    · exact moves.greeted
  refine ⟨signal, rest, same, after.symm, ?_, ?_⟩
  · unfold Pair.Collides
    simp only [onWire]
    rw [← named, mirror.collides_iff side.other reads, represents.phase]
  · rw [← named, present.config]
    refine mirror.translate (mt List.length_eq_zero_iff.mp packet.intoBytes_ne_nil) side signal
      fun handshake => ?_
    have phase := greeted handshake
    rw [represents.phase] at phase
    simp only [present.id, phase, true_and]

/-- What a side reads is the front of the path from the other side. -/
theorem deliver {now : Instant} (represents : Represents mirror pair session)
    (configured : session.Configured Loose)
    (move : pair.step ⟨side, .deliver now⟩ = some pair') :
    ∃ signal rest, session.path side.other = signal :: rest ∧
      (pair.Collides ⟨side, .deliver now⟩ ∧ ¬ pair'.Sound ∨
        ¬ pair.Collides ⟨side, .deliver now⟩ ∧ ∃ phase' signals,
          Move side (session.phase side) (.read signal) phase' signals ∧
          Represents mirror pair' (session.advance side (.read signal) phase' signals rest)) := by
  unfold Pair.step at move
  simp only at move
  split at move
  · rename_i packet left reads onWire
    obtain ⟨signal, rest, same, after, collides_iff, event⟩ :=
      represents.incoming now configured reads onWire
    rw [event] at move
    refine ⟨signal, rest, same, ?_⟩
    have reading : (session.phase side).Reads := by
      rw [represents.phase]
      exact Connection.reads_iff.mp reads
    by_cases collides : (session.phase side).collides signal = true
    · refine Or.inl ⟨collides_iff.mpr collides, fun sound => sound side ?_⟩
      obtain ⟨machine', packets, messages, reaction, rfl⟩ := Pair.dispatch_cases move
      rw [represents.phase] at collides
      have present : Present mirror side (pair.peer side).machine :=
        (represents.settled side).resolve_left fun idle => by
          rw [idle] at collides
          cases collides
      simp only [Function.update_self]
      exact present.refuses collides reaction
    · refine Or.inr ⟨fun collided => collides (collides_iff.mp collided), ?_⟩
      obtain ⟨phase', signals, moves⟩ := (configured.reads reading same).resolve_left collides
      exact ⟨phase', signals, moves, represents.advance (.read signal now) moves left after move⟩
  · cases move

/-- Nothing that a pair may do panics. -/
theorem enabled (represents : Represents mirror pair session)
    (configured : session.Configured Loose) (label : Label) :
    (pair.step label).isSome = true ↔ pair.Offers label := by
  obtain ⟨side, deed⟩ := label
  unfold Pair.step Pair.Offers
  cases deed with
  | transmit =>
    simp only [ConnectionContext.pollTransmit]
    cases (pair.peer side).ctx.sendQueue with
    | nil => simp
    | cons packet rest => simp
  | deliver now =>
    cases reads : (pair.peer side).machine.reads with
    | false => simp [reads]
    | true =>
      cases onWire : pair.wire side.other with
      | nil => simp [reads]
      | cons packet left =>
        obtain ⟨signal, _, _, _, _, event⟩ := represents.incoming now configured reads onWire
        simp only [reads, event, true_and, ne_eq, reduceCtorEq, not_false_eq_true, iff_true]
        exact Pair.dispatch_isSome (by cases signal <;> nofun)
  | act event =>
    by_cases allowed : pair.may side event = true
    · simp only [allowed, if_true, iff_true]
      refine Pair.dispatch_isSome ?_
      rintro now msg rfl
      exact Pair.may_small allowed
    · simp [allowed]

/-- The setup of both parties starts a session. -/
theorem start {clientId : Option String} {clientNow serverNow : Instant} {first : Pair}
    (started : Pair.start mirror clientId clientNow serverNow = some first) :
    Represents mirror first .fresh := by
  obtain ⟨client, setUp, started⟩ := Option.bind_eq_some_iff.mp started
  obtain ⟨client', connected, started⟩ := Option.bind_eq_some_iff.mp started
  obtain ⟨server, served, rfl⟩ := Option.map_eq_some_iff.mp started
  obtain ⟨⟨state, storage⟩, packets, messages, reaction, rfl⟩ := Peer.dispatch_cases setUp
  have found := mirror.found .client
  obtain ⟨rfl, rfl, rfl, rfl⟩ := reaction.unique (.setUp found)
  obtain ⟨⟨state, storage⟩, packets, messages, reaction, rfl⟩ := Peer.dispatch_cases connected
  obtain ⟨rfl, rfl, rfl, rfl⟩ := reaction.unique (.connected found)
  obtain ⟨⟨state, storage⟩, packets, messages, reaction, rfl⟩ := Peer.dispatch_cases served
  obtain ⟨rfl, rfl, rfl, rfl⟩ := reaction.unique (.served mirror.timed)
  refine ⟨?_, ?_, ?_, ?_, ?_⟩
  all_goals rintro (client | server)
  · exact Or.inr ⟨Or.inl rfl, rfl, rfl, rfl, fun _ => mirror.target .client⟩
  · refine Or.inr ⟨Or.inl rfl, rfl, rfl, rfl, ?_⟩
    rintro (accepting | ⟨_, client⟩)
    · cases accepting
    · cases client
  all_goals rfl

/-- A step of the pair collides and ends in Error, or it is a step of the session: none for a
transmission, else one on a trigger of the deed. -/
theorem step {label : Label} (represents : Represents mirror pair session)
    (configured : session.Configured Loose) (move : pair.step label = some pair') :
    pair.Collides label ∧ ¬ pair'.Sound ∨
      ¬ pair.Collides label ∧ ∃ session', Represents mirror pair' session' ∧
        (session' = session ∨
          ∃ trigger, label.deed.Prompts (mirror.key label.side) trigger ∧
            session.Step label.side trigger session') := by
  obtain ⟨side, deed⟩ := label
  cases deed with
  | transmit => exact Or.inr ⟨not_false, session, represents.transmit move, Or.inl rfl⟩
  | deliver now =>
    obtain ⟨signal, rest, front, ⟨collides, unsound⟩ | ⟨clear, phase', signals, moves, after⟩⟩ :=
      represents.deliver configured move
    · exact Or.inl ⟨collides, unsound⟩
    · exact Or.inr ⟨clear, _, after, Or.inr ⟨_, ⟨signal, rfl⟩, phase', signals, rest, moves,
        front, rfl⟩⟩
  | act event =>
    obtain ⟨trigger, phase', signals, means, silent, moves, after⟩ := represents.act move
    refine Or.inr ⟨not_false, _, after, Or.inr ⟨trigger, ⟨means, silent⟩, phase', signals,
      session.path side.other, moves, ?_, rfl⟩⟩
    cases trigger with
    | read signal => exact absurd rfl (silent signal)
    | startup | data | shutdown | disconnect | ti | tr | ts | closed => rfl

theorem sound (represents : Represents mirror pair session) : pair.Sound :=
  fun side => (represents.settled side).state_ne

end Represents

/-! ### The pair of the crate's tests -/

namespace Sample

def mirror : Mirror where
  config
    | .client => clientConfig
    | .server => serverConfig
  key _ := "test"
  entry
    | .client => clientEntry
    | .server => serverEntry
  serverTi := 30
  found side := by cases side <;> rfl
  timed := rfl
  localId side := by cases side <;> rfl
  target side := by cases side <;> rfl
  only key entry found _ := by
    have member : (⟨key, entry⟩ : Sigma fun _ : String => ConnectionConfig) ∈
        [⟨"test", serverEntry⟩] := mem_entries_iff.mpr found
    rw [List.mem_singleton] at member
    exact congrArg Sigma.fst member

/-- Both parties of the tests past their setup. -/
def pair : Pair :=
  (Pair.start mirror none 0 0).getD
    { peer := fun _ => .new (.new clientConfig none), wire := fun _ => [] }

theorem pair_started : Pair.start mirror none 0 0 = some pair := rfl

/-- Both parties identify themselves and associate. -/
def association : List Label :=
  [⟨.client, .transmit⟩, ⟨.server, .deliver 1⟩, ⟨.server, .transmit⟩, ⟨.client, .deliver 1⟩,
    ⟨.client, .act (.lStartup 1)⟩, ⟨.client, .transmit⟩, ⟨.client, .transmit⟩,
    ⟨.server, .deliver 2⟩, ⟨.server, .act (.lStartup 2)⟩, ⟨.server, .deliver 2⟩,
    ⟨.server, .transmit⟩, ⟨.client, .deliver 3⟩, ⟨.client, .transmit⟩, ⟨.server, .deliver 4⟩,
    ⟨.server, .transmit⟩, ⟨.client, .deliver 4⟩]

end Sample

end Fmtp

/-
This file proves that two undisturbed parties associate, and after how many steps. What still
has to happen is a debt: the packets to transmit and to read, and what each phase will yet send.
Every step of the transport pays one unit of it, in whatever order the steps come, and while it is
not paid some step is enabled. So all schedules are equally long, and all of them end with both
parties in DataReady.
-/

import Fmtp.Agreement
import Fmtp.Ranking

open TransitionSystem

namespace Fmtp

/-! ### What a phase will yet send -/

/-- The steps that a phase is away from DataReady: two for every packet that the party will send,
and one for its startup. -/
def Phase.debt : Phase → Nat
  | .idPending => 7
  | .acceptPending | .starting => 5
  | .associationPending => 2
  | .idle | .connectionPending | .resting | .dataReady | .error => 0

/-- A party that reads anything but a shutdown turns its debt into packets. -/
theorem Move.pays_read {side : Side} {phase phase' : Phase} {signal : Signal}
    {signals : List Signal} (move : Move side phase (.read signal) phase' signals)
    (goes : signal = .shutdown → phase ≠ .dataReady) :
    phase'.debt + 2 * signals.length = phase.debt := by
  cases move with
  | introduced | recognised | accepted | associated | received | ignored => rfl
  | suspended => exact absurd rfl (goes rfl)
  | released gives | closed gives => cases phase <;> cases gives

namespace Standing

variable {client server : Phase} {toServer toClient rest : List Signal}

/-- A client in DataReady reads a shutdown only of a server that has gone. -/
theorem client_shut (standing : Standing Strict .dataReady toServer server (.shutdown :: rest)) :
    server = .idle := by
  cases standing with
  | talking _ _ _ back => exact (Steady.shutdown back).1
  | serverGone => rfl

/-- A server in DataReady reads a shutdown only of a client that has gone. -/
theorem server_shut (standing : Standing Strict client (.shutdown :: rest) .dataReady toClient) :
    client = .idle := by
  cases standing with
  | talking _ _ forth => exact (Steady.shutdown forth).1
  | clientGone => rfl

end Standing

theorem Session.Configured.continues {session : Session} (configured : session.Configured Strict)
    (present : ∀ side, session.phase side ≠ .idle) {side : Side} {rest : List Signal}
    (front : session.path side.other = .shutdown :: rest) : session.phase side ≠ .dataReady := by
  intro ready
  unfold Configured at configured
  cases side with
  | client =>
    rw [ready, show session.path .server = _ from front] at configured
    exact present .server configured.client_shut
  | server =>
    rw [ready, show session.path .client = _ from front] at configured
    exact present .client configured.server_shut

/-! ### The debt of a pair -/

/-- What a party still has to do: its phase, its queue, and its wire. -/
def Peer.debt (peer : Peer) (wire : List FmtpPacket) : Nat :=
  peer.machine.phase.debt + 2 * peer.ctx.sendQueue.length + wire.length

namespace Pair

variable {pair pair' : Pair} {side : Side} {event : Event}

def debt (pair : Pair) : Nat :=
  (pair.peer .client).debt (pair.wire .client) + (pair.peer .server).debt (pair.wire .server)

theorem debt_eq (pair : Pair) (side : Side) :
    pair.debt =
      (pair.peer side).debt (pair.wire side) +
        (pair.peer side.other).debt (pair.wire side.other) := by
  cases side with
  | client => rfl
  | server => exact Nat.add_comm _ _

/-- The steps of the transport: a packet moves, or a party that starts associates. -/
def presses (pair : Pair) (label : Label) : Bool :=
  match label.deed with
  | .transmit | .deliver _ => true
  | .act (.lStartup _) => (pair.peer label.side).machine.phase = .starting
  | .act _ => false

theorem calm_of_presses {label : Label} (presses : pair.presses label = true) :
    pair.calm label = true := by
  obtain ⟨side, deed⟩ := label
  cases deed with
  | transmit | deliver => rfl
  | act event =>
    cases event with
    | lStartup => rfl
    | _ => cases presses

/-- A party that makes a move queues its signals. -/
theorem debt_dispatch {mirror : Mirror} {trigger : Trigger} {phase' : Phase}
    {signals : List Signal} (dispatched : pair.dispatch side event = some pair')
    (settled : Settled mirror side (pair.peer side).machine)
    (means : Means (mirror.key side) event trigger)
    (move : Move side (pair.peer side).machine.phase trigger phase' signals) :
    pair'.debt + (pair.peer side).machine.phase.debt =
      pair.debt + phase'.debt + 2 * signals.length := by
  obtain ⟨machine', packets, messages, reaction, rfl⟩ := dispatch_cases dispatched
  have follows := settled.simulates move means reaction
  rw [debt_eq _ side, debt_eq _ side]
  simp only [Function.update_self, Function.update_of_ne side.other_ne, Peer.debt,
    ConnectionContext.extend, List.length_append, follows.packets, List.length_map, follows.phase]
  omega

end Pair

namespace Undisturbed

variable {mirror : Mirror} {pair pair' : Pair} {session : Session} {label : Label}

/-- Every step of the transport pays one unit. -/
theorem pays (undisturbed : Undisturbed mirror pair session) (presses : pair.presses label = true)
    (move : pair.step label = some pair') : pair'.debt + 1 = pair.debt := by
  obtain ⟨represents, configured, strict, _, present⟩ := undisturbed
  have clear := represents.clear_of_strict configured strict move
  obtain ⟨side, deed⟩ := label
  cases deed with
  | transmit =>
    unfold Pair.step at move
    simp only [ConnectionContext.pollTransmit] at move
    cases queue : (pair.peer side).ctx.sendQueue with
    | nil =>
      rw [queue] at move
      cases move
    | cons packet rest =>
      rw [queue] at move
      obtain rfl := Option.some.inj move
      rw [Pair.debt_eq _ side, Pair.debt_eq _ side]
      simp only [Function.update_self, Function.update_of_ne side.other_ne, Peer.debt, queue,
        List.length_append, List.length_cons, List.tail_cons, List.length_nil]
      omega
  | deliver now =>
    unfold Pair.step at move
    simp only at move
    split at move
    · rename_i packet left reads onWire
      obtain ⟨signal, rest, same, _, collides_iff, event⟩ :=
        represents.incoming now configured reads onWire
      rw [event] at move
      have reading : (session.phase side).Reads := by
        rw [represents.phase]
        exact Connection.reads_iff.mp reads
      have clear' : ¬ (session.phase side).collides signal = true := fun collides =>
        clear (collides_iff.mpr collides)
      obtain ⟨phase', signals, moves⟩ := (configured.reads reading same).resolve_left clear'
      have goes : signal = .shutdown → session.phase side ≠ .dataReady := by
        rintro rfl
        exact strict.continues present same
      have pays := moves.pays_read goes
      rw [represents.phase] at moves pays
      have handled : Pair.dispatch
          { pair with wire := Function.update pair.wire side.other left } side
          (signal.event (mirror.key side) now) = some pair' := move
      have dispatched :=
        Pair.debt_dispatch handled (represents.settled side) (.read signal now) moves
      have shorter : ({ pair with wire := Function.update pair.wire side.other left } : Pair).debt +
          1 = pair.debt := by
        rw [Pair.debt_eq _ side, Pair.debt_eq pair side]
        simp only [Function.update_self, Function.update_of_ne side.other_ne.symm, Peer.debt,
          onWire, List.length_cons]
        omega
      simp only at dispatched
      omega
    · cases move
  | act event =>
    cases event with
    | lStartup now =>
      have starting : (pair.peer side).machine.phase = .starting := of_decide_eq_true presses
      unfold Pair.step at move
      simp only at move
      split at move
      · have dispatched := Pair.debt_dispatch move (represents.settled side) (.startup now)
          (.started (Or.inl starting))
        rw [starting] at dispatched
        simp only [Phase.debt, List.length_singleton] at dispatched
        omega
      · cases move
    | _ => cases presses

/-- A party that is there reads, or is about to associate. -/
theorem reads (undisturbed : Undisturbed mirror pair session) (side : Side)
    (settled : (pair.peer side).machine.phase ≠ .starting) :
    (pair.peer side).machine.reads = true := by
  obtain ⟨represents, _, strict, _, present⟩ := undisturbed
  have inside := ((represents.settled side).resolve_left fun idle =>
    present side ((represents.phase side).trans idle)).inside
  rw [Connection.reads_iff]
  rcases inside with pending | accepting | open_
  · rw [pending]
    trivial
  · rw [accepting]
    trivial
  · have flow : ∃ sender, Strict sender (session.path side.other) (session.phase side) := by
      rw [← represents.phase] at open_
      cases side with
      | client => exact Standing.client_flow strict open_
      | server => exact Standing.server_flow strict open_
    obtain ⟨_, flow⟩ := flow
    rw [represents.phase] at flow
    rcases flow.reader_cases with ⟨starting | associating, _⟩ | ⟨ready, _⟩
    · exact absurd starting settled
    · rw [associating]
      trivial
    · rw [ready]
      trivial

/-- Two parties that owe nothing have nothing under way and are in DataReady. -/
theorem drained_iff (undisturbed : Undisturbed mirror pair session) :
    pair.debt = 0 ↔ pair.Drained := by
  constructor
  · intro none side
    rw [Pair.debt_eq _ side] at none
    unfold Peer.debt at none
    refine ⟨List.length_eq_zero_iff.mp (by omega), List.length_eq_zero_iff.mp (by omega), ?_⟩
    intro starting
    rw [← Connection.phase_starting] at starting
    rw [starting] at none
    simp [Phase.debt] at none
  · intro drained
    have each : ∀ side, (pair.peer side).debt (pair.wire side) = 0 := by
      intro side
      have ready := Connection.phase_dataReady.mpr
        (undisturbed.agreed.associated drained side).1
      rw [Peer.debt, ready, (drained side).1, (drained side).2.1]
      rfl
    rw [Pair.debt, each, each]

/-- While something is owed, the transport can go on. -/
theorem goes (undisturbed : Undisturbed mirror pair session) (owes : pair.debt ≠ 0)
    (now : Instant) :
    ∃ side, ∃ deed ∈ [Deed.transmit, .deliver now, .act (.lStartup now)],
      pair.presses ⟨side, deed⟩ = true ∧ (pair.step ⟨side, deed⟩).isSome = true := by
  have enabled := undisturbed.represents.enabled undisturbed.configured
  by_cases queued : ∃ side, (pair.peer side).ctx.sendQueue ≠ []
  · obtain ⟨side, queue⟩ := queued
    exact ⟨side, .transmit, List.mem_cons_self, rfl, (enabled _).mpr queue⟩
  · by_cases starting : ∃ side, (pair.peer side).machine.phase = .starting
    · obtain ⟨side, starting⟩ := starting
      refine ⟨side, .act (.lStartup now), by simp, decide_eq_true starting, (enabled _).mpr ?_⟩
      obtain ⟨⟨tr, ready⟩, _⟩ := Connection.phase_starting.mp starting
      simp [Pair.Offers, Pair.may, ready]
    · by_cases carried : ∃ side, pair.wire side ≠ []
      · obtain ⟨side, wire⟩ := carried
        have reads := undisturbed.reads side.other fun same => starting ⟨_, same⟩
        refine ⟨side.other, .deliver now, by simp, rfl, (enabled _).mpr ⟨reads, ?_⟩⟩
        rw [Side.other_other]
        exact wire
      · simp only [not_exists, not_not] at queued starting carried
        refine absurd (undisturbed.drained_iff.mpr fun side => ?_) owes
        refine ⟨carried side, queued side, ?_⟩
        rw [← Connection.phase_starting]
        exact starting side

end Undisturbed

/-- From every point of an undisturbed session, the steps of the transport pay what is owed, one
unit each, in every order, and they are stuck exactly when nothing is under way. Some schedule of
them ends so, with both parties in DataReady and everything that was given delivered. -/
theorem association_converges {mirror : Mirror} {clientId : Option String}
    {clientNow serverNow : Instant} {first last : Pair} {labels : List Label}
    (started : Pair.start mirror clientId clientNow serverNow = some first)
    (run : Run Pair.step first labels last)
    (calm : EachStep Pair.step (fun pair label => pair.calm label = true) first labels) :
    (∀ {more next}, Run Pair.step last more next →
      EachStep Pair.step (fun pair label => pair.presses label = true) last more →
      next.debt + more.length = last.debt ∧
        ((∀ label, next.presses label = true → next.step label = none) ↔ next.Drained)) ∧
    ∃ more settled, Run Pair.step last more settled ∧
      EachStep Pair.step (fun pair label => pair.presses label = true) last more ∧
      more.length = last.debt ∧ ∀ side,
        (∃ tr ts, (settled.peer side).machine.state = .dataReady tr ts) ∧
          (settled.peer side).ctx.recvQueue = (settled.peer side.other).given := by
  have initial : Undisturbed mirror first .fresh :=
    ⟨.start started, Session.fresh_configured Loose, Session.fresh_configured Strict,
      Session.fresh_accounted, fun side => by cases side <;> nofun⟩
  have kept : ∀ pair label pair', (∃ session, Undisturbed mirror pair session) →
      Pair.calm pair label = true → pair.step label = some pair' →
      (∃ session, Undisturbed mirror pair' session) ∧ True := by
    rintro pair label pair' ⟨session, undisturbed⟩ calm move
    exact ⟨undisturbed.step calm move, trivial⟩
  have paid : ∀ pair label pair', (∃ session, Undisturbed mirror pair session) →
      Pair.presses pair label = true → pair.step label = some pair' →
      (∃ session, Undisturbed mirror pair' session) ∧ pair'.debt + 1 = pair.debt := by
    rintro pair label pair' ⟨session, undisturbed⟩ presses move
    exact ⟨undisturbed.step (Pair.calm_of_presses presses) move, undisturbed.pays presses move⟩
  have goes : ∀ pair, (∃ session, Undisturbed mirror pair session) → pair.debt ≠ 0 →
      ∃ label, pair.presses label = true ∧ (pair.step label).isSome = true := by
    rintro pair ⟨session, undisturbed⟩ owes
    obtain ⟨side, deed, _, presses, moves⟩ := undisturbed.goes owes 0
    exact ⟨⟨side, deed⟩, presses, moves⟩
  obtain ⟨undisturbed, _⟩ := EachStep.preserves kept run ⟨.fresh, initial⟩ calm
  refine ⟨fun run each => ?_, ?_⟩
  · obtain ⟨⟨session, holds⟩, pays⟩ := Run.paid paid run undisturbed each
    refine ⟨pays, ?_⟩
    rw [← holds.drained_iff]
    exact (paid_iff_stuck paid goes ⟨session, holds⟩).symm
  · obtain ⟨more, settled, run, each, none⟩ := exists_paid paid goes undisturbed
    obtain ⟨⟨session, holds⟩, pays⟩ := Run.paid paid run undisturbed each
    rw [none, Nat.zero_add] at pays
    exact ⟨more, settled, run, each, pays,
      holds.agreed.associated (holds.drained_iff.mp none)⟩

/-- The machines of the tests need sixteen steps. -/
example : Sample.pair.debt = 16 := by decide +kernel

/-- The machines of the tests after the server has read the handshake of the client. -/
def Sample.greeted : Pair :=
  (final Pair.step Sample.pair (Sample.association.take 2)).getD Sample.pair

theorem association_converges_greeting :
    (∀ {more next}, Run Pair.step Sample.greeted more next →
      EachStep Pair.step (fun pair label => pair.presses label = true) Sample.greeted more →
      next.debt + more.length = Sample.greeted.debt ∧
        ((∀ label, next.presses label = true → next.step label = none) ↔ next.Drained)) ∧
    ∃ more settled, Run Pair.step Sample.greeted more settled ∧
      EachStep Pair.step (fun pair label => pair.presses label = true) Sample.greeted more ∧
      more.length = Sample.greeted.debt ∧ ∀ side,
        (∃ tr ts, (settled.peer side).machine.state = .dataReady tr ts) ∧
          (settled.peer side).ctx.recvQueue = (settled.peer side.other).given :=
  association_converges Sample.pair_started
    (Run.of_enabled Pair.step Sample.pair (Sample.association.take 2) (by decide +kernel))
    (by decide +kernel)

end Fmtp

/-
This file proves exactly when the loop delivers what it receives. The future over the receive
queue pops a message when the race starts, and the message is gone when another branch wins.
So a run delivers every received message, once and in order, if and only if no iteration finds
a message in the receive queue while a queued packet or a user's command goes before it.

The invariant carries the message in hand: at every point, what was delivered, the message in
hand and the queue are what the machine pushed. Every arm keeps the message in hand but the
one that delivers it.
-/

import Fmtp.Iteration
import Mathlib.Tactic.FinCases

namespace Fmtp.Tokio

open TransitionSystem

/-! ### The messages of a log -/

/-- The messages an action gives the user. -/
def Action.delivered : Action → List FmtpMessage
  | .sent (.dataReceived msg) => [msg]
  | _ => []

/-- The messages the machine pushes onto the receive queue in an action. -/
def Action.pushed : Action → List FmtpMessage
  | .dispatched entry => entry.messages
  | _ => []

def delivered (log : List Action) : List FmtpMessage :=
  log.flatMap Action.delivered

def pushed (log : List Action) : List FmtpMessage :=
  log.flatMap Action.pushed

theorem delivered_append (log later : List Action) :
    delivered (log ++ later) = delivered log ++ delivered later :=
  List.flatMap_append

theorem pushed_append (log later : List Action) :
    pushed (log ++ later) = pushed log ++ pushed later :=
  List.flatMap_append

theorem Action.Plain.delivered {action : Action} (plain : action.Plain) :
    action.delivered = [] := by
  cases action with
  | sent event =>
    cases event with
    | dataReceived msg => exact absurd plain not_false
    | stateChanged | connectionIdDetermined => rfl
  | dispatched | connected | wrote | shut => rfl

theorem Action.Plain.pushed {action : Action} (plain : action.Plain) : action.pushed = [] := by
  cases action with
  | dispatched entry => exact absurd plain not_false
  | connected | wrote | shut | sent => rfl

/-! ### The message in hand -/

/-- What was delivered, the messages in hand and the queue are what was queued at first and
what the machine pushed since. -/
def Holds (first hand : List FmtpMessage) (connection : Connection) : Prop :=
  delivered connection.log ++ hand ++ connection.ctx.recvQueue = first ++ pushed connection.log

/-- Nothing is lost, duplicated or reordered: what was delivered and the queue are what was
queued at first and what the machine pushed since. -/
def Conserved (first : List FmtpMessage) (loop : Loop) : Prop :=
  delivered loop.connection.log ++ loop.connection.ctx.recvQueue =
    first ++ pushed loop.connection.log

instance (first : List FmtpMessage) (loop : Loop) : Decidable (Conserved first loop) :=
  inferInstanceAs (Decidable (_ = _))

namespace Holds

variable {first hand : List FmtpMessage} {connection before after : Connection}

/-- With a message in hand, the rest is not what was pushed. -/
theorem conserved_iff {loop : Loop} (holds : Holds first hand loop.connection) :
    Conserved first loop ↔ hand = [] := by
  unfold Holds at holds
  unfold Conserved
  constructor
  · intro conserved
    have lengths := congrArg List.length (holds.trans conserved.symm)
    simp only [List.length_append] at lengths
    exact List.length_eq_zero_iff.mp (by omega)
  · rintro rfl
    rw [← holds, List.append_nil]

theorem reports (holds : Holds first hand before) (reports : before.Reports after) :
    Holds first hand after := by
  obtain ⟨actions, stays, plain⟩ := reports
  have noneDelivered : delivered actions = [] :=
    List.flatMap_eq_nil_iff.mpr fun action member => (plain action member).delivered
  have nonePushed : pushed actions = [] :=
    List.flatMap_eq_nil_iff.mpr fun action member => (plain action member).pushed
  unfold Holds at holds ⊢
  rw [stays.log, stays.ctx, delivered_append, pushed_append, noneDelivered, nonePushed,
    List.append_nil, List.append_nil, holds]

/-- What a dispatch pushes goes to the end of the queue. -/
theorem dispatches {entry : Dispatched} (holds : Holds first hand before)
    (dispatches : before.Dispatches after entry) : Holds first hand after := by
  have alone : pushed [.dispatched entry] = entry.messages := List.append_nil entry.messages
  unfold Holds at holds ⊢
  rw [dispatches.log, dispatches.ctx, delivered_append, pushed_append, alone,
    ← List.append_assoc first, ← holds]
  show delivered before.log ++ [] ++ hand ++ (before.ctx.recvQueue ++ entry.messages) = _
  rw [List.append_nil, List.append_assoc _ _ entry.messages]

theorem dispatch {event : Event} (holds : Holds first hand before)
    (handled : before.dispatch event = .ok after) : Holds first hand after := by
  obtain ⟨entry, _, dispatched⟩ := Connection.dispatch_spec handled
  exact holds.dispatches dispatched

theorem once {raises : Event → Prop} (holds : Holds first hand before)
    (once : Connection.Once raises before after) : Holds first hand after := by
  obtain ⟨middle, reports, rfl | ⟨entry, _, dispatched⟩⟩ := once
  · exact holds.reports reports
  · exact (holds.reports reports).dispatches dispatched

theorem connected (holds : Holds first hand connection) (socket : Nat) (address : SocketAddr) :
    Holds first hand (connection.record (.connected socket address)) := by
  have noneDelivered : delivered [.connected socket address] = [] := rfl
  have nonePushed : pushed [.connected socket address] = [] := rfl
  unfold Holds Connection.record at *
  rw [delivered_append, pushed_append, noneDelivered, nonePushed, List.append_nil,
    List.append_nil, holds]

/-- The arm of Idle keeps what is in hand. -/
theorem kept (first hand : List FmtpMessage) : Loop.Kept (Holds first hand) where
  dispatch := fun holds handled => holds.dispatch handled
  connected := fun socket address holds => holds.connected socket address
  shut := fun _ holds => holds.reports (Connection.reports_record _ trivial)

/-- Every arm but that of a received message keeps what is in hand. -/
theorem arm {loop : Loop} (holds : Holds first hand loop.connection) (offer : Offer)
    {branch : Branch} (other : ∀ msg, branch ≠ .receive msg) :
    Holds first hand (loop.arm offer branch).connection := by
  by_cases busy : branch = .machine .idle
  · subst busy
    exact (kept first hand).idleArm holds
  · exact holds.once (loop.arm_once offer other busy)

/-- The arm of a received message delivers it, if the receiver is open. -/
theorem receive {loop : Loop} {msg : FmtpMessage} (holds : Holds first [msg] loop.connection)
    {offer : Offer} (listening : offer.listening (.dataReceived msg) = true) :
    Holds first [] (loop.arm offer (.receive msg)).connection := by
  have delivers : loop.arm offer (.receive msg) = loop.record (.sent (.dataReceived msg)) :=
    if_pos listening
  unfold Holds at holds
  rw [delivers]
  show delivered (loop.connection.log ++ [.sent (.dataReceived msg)]) ++ [] ++
    loop.connection.ctx.recvQueue = first ++ pushed (loop.connection.log ++ [_])
  rw [delivered_append, pushed_append]
  show delivered loop.connection.log ++ [msg] ++ [] ++ loop.connection.ctx.recvQueue =
    first ++ (pushed loop.connection.log ++ [])
  rw [List.append_nil, List.append_nil, holds]

end Holds

/-- The pop takes the front of the queue in hand. -/
theorem Conserved.pop {first : List FmtpMessage} {loop : Loop} (conserved : Conserved first loop) :
    Holds first loop.connection.ctx.recvQueue.head?.toList loop.pop.connection := by
  show delivered loop.connection.log ++ loop.connection.ctx.recvQueue.head?.toList ++
    loop.connection.ctx.recvQueue.tail = first ++ pushed loop.connection.log
  unfold Conserved at conserved
  rw [← conserved, List.append_assoc]
  cases loop.connection.ctx.recvQueue with
  | nil => rfl
  | cons msg rest => rfl

/-! ### Which branch wins -/

/-- A received message is queued and another branch goes before it: a packet to transmit, or
something from the command channel. -/
def Overtaken (loop : Loop) (offer : Offer) : Prop :=
  loop.connection.ctx.recvQueue ≠ [] ∧
    ((loop.socket ≠ none ∧ loop.connection.ctx.sendQueue ≠ []) ∨ offer.command ≠ none)

namespace Loop

variable {loop : Loop} {offer : Offer} {branch : Branch}

/-- A received message is selected only where it is the front of the queue and nothing goes
before it. -/
theorem select_receive {msg : FmtpMessage} (selected : loop.select offer = some (.receive msg)) :
    loop.connection.ctx.recvQueue.head? = some msg ∧ ¬ Overtaken loop offer := by
  obtain ⟨drained, silent, front⟩ := select_chosen selected
  refine ⟨front, ?_⟩
  rintro ⟨_, ⟨socketed, queued⟩ | commanded⟩
  · rcases drained with absent | empty
    · exact socketed absent
    · exact queued empty
  · exact commanded silent

/-- Where nothing goes before a queued message, it is selected. -/
theorem select_of_not_overtaken {msg : FmtpMessage} {rest : List FmtpMessage}
    (queued : loop.connection.ctx.recvQueue = msg :: rest) (first : ¬ Overtaken loop offer) :
    loop.select offer = some (.receive msg) := by
  have waiting : loop.connection.ctx.recvQueue ≠ [] := by
    rw [queued]
    exact List.cons_ne_nil msg rest
  unfold select
  dsimp only [ConnectionContext.pollTransmit, ConnectionContext.pollReceive]
  split
  · rename_i socket packet socketed front
    refine absurd ⟨waiting, Or.inl ⟨?_, ?_⟩⟩ first
    · rw [socketed]
      exact Option.some_ne_none socket
    · intro empty
      rw [empty] at front
      cases front
  · split
    · rename_i received commanded
      refine absurd ⟨waiting, Or.inr ?_⟩ first
      rw [commanded]
      exact Option.some_ne_none received
    · rw [queued]
      rfl

end Loop

/-! ### Exactly when messages are delivered -/

/-- The loops that `run_client` and `run_server` start, whatever the connection has been
through, with the messages already in the receive queue. -/
def Begun (first : List FmtpMessage) (loop : Loop) : Prop :=
  ∃ connection : Connection, connection.ctx.recvQueue = first ∧
    (loop = connection.runClient ∨ ∃ now, loop = connection.runServer now)

theorem Begun.conserved {first : List FmtpMessage} {loop : Loop} (begun : Begun first loop) :
    Conserved first loop := by
  obtain ⟨connection, rfl, rfl | ⟨now, rfl⟩⟩ := begun
  · exact (List.append_nil connection.ctx.recvQueue).symm
  · have holds : Holds connection.ctx.recvQueue [] (Loop.start connection (some 0) 1).connection :=
      (List.append_nil connection.ctx.recvQueue).symm
    have once : Connection.Once (fun _ => True) (Loop.start connection (some 0) 1).connection
        (connection.runServer now).connection := Loop.dispatch_once _ trivial
    exact (holds.once once).conserved_iff.mpr rfl

/-- As long as the event receiver stays open, the messages delivered and those still queued are
at the top of every iteration exactly the messages pushed, if and only if no iteration finds a
message overtaken. A run that has ended counts as at the top of the iteration that it no longer
takes. -/
theorem delivery_exact {first : List FmtpMessage} {loop last : Loop} {offers : List Offer}
    (begun : Begun first loop) (run : Run Loop.iterate loop offers last)
    (listening : EachStep Loop.iterate (fun _ offer => ∀ event, offer.listening event = true)
      loop offers) :
    EachState Loop.iterate (Conserved first) loop offers ↔
      EachStep Loop.iterate (fun loop offer => ¬ Overtaken loop offer) loop offers := by
  have kept : ∀ loop offer next, Conserved first loop →
      (∀ event, offer.listening event = true) → ¬ Overtaken loop offer →
      loop.iterate offer = some next → Conserved first next ∧ Conserved first next := by
    intro loop offer next conserved receiving clear move
    suffices holds : Conserved first next from ⟨holds, holds⟩
    obtain ⟨_, branch, selected, reports⟩ := Loop.iterate_spec loop offer move
    have inHand := conserved.pop
    cases queue : loop.connection.ctx.recvQueue with
    | cons msg rest =>
      obtain rfl := Option.some.inj
        (selected.symm.trans (Loop.select_of_not_overtaken queue clear))
      rw [queue] at inHand
      have kept := (inHand.receive (receiving (.dataReceived msg))).reports reports
      exact kept.conserved_iff.mpr rfl
    | nil =>
      rw [queue] at inHand
      have other : ∀ msg, branch ≠ .receive msg := by
        rintro msg rfl
        have front := (Loop.select_receive selected).1
        rw [queue] at front
        cases front
      exact ((inHand.arm offer other).reports reports).conserved_iff.mpr rfl
  have broken : ∀ loop offer next, Conserved first loop →
      (∀ event, offer.listening event = true) → ¬ ¬ Overtaken loop offer →
      loop.iterate offer = some next → ¬ Conserved first next := by
    intro loop offer next conserved _ overtaken move
    rw [not_not] at overtaken
    obtain ⟨_, branch, selected, reports⟩ := Loop.iterate_spec loop offer move
    have other : ∀ msg, branch ≠ .receive msg := by
      rintro msg rfl
      exact (Loop.select_receive selected).2 overtaken
    have kept := (conserved.pop.arm offer other).reports reports
    rw [kept.conserved_iff]
    obtain ⟨msg, rest, queue⟩ := List.exists_cons_of_ne_nil overtaken.1
    rw [queue]
    exact List.cons_ne_nil msg []
  have exactly := eachMove_iff_eachStep kept broken run begun.conserved listening
  exact ⟨fun each => exactly.mp each.2, fun guarded => ⟨begun.conserved, exactly.mpr guarded⟩⟩

namespace Sample

/-- One byte of operational data. -/
def dataChunk : Chunk :=
  ⟨(FmtpPacket.ofPayload .operational [7] (by decide)).intoBytes, by decide⟩

/-- A data packet is read, and the user takes its message. -/
def delivering : List Offer := association ++ [incoming dataChunk, quiet]

/-- A data packet is read, and the user asks for a shutdown before taking its message. -/
def overtaking : List Offer := association ++ [incoming dataChunk, commanding .shutdown]

theorem delivering_listens : ∀ offer ∈ delivering, ∀ event, offer.listening event = true := by
  intro offer member event
  fin_cases member <;> rfl

theorem overtaking_listens : ∀ offer ∈ overtaking, ∀ event, offer.listening event = true := by
  intro offer member event
  fin_cases member <;> rfl

end Sample

/-- The criterion on the run in which the user takes the message. -/
theorem delivery_exact_delivering :
    EachState Loop.iterate (Conserved []) (Sample.client Fmtp.Sample.clientEntry)
        Sample.delivering ↔
      EachStep Loop.iterate (fun loop offer => ¬ Overtaken loop offer)
        (Sample.client Fmtp.Sample.clientEntry) Sample.delivering := by
  have begun : Begun [] (Sample.client Fmtp.Sample.clientEntry) := ⟨_, rfl, Or.inl rfl⟩
  exact delivery_exact begun (Run.of_enabled _ _ _ (by decide +kernel))
    (eachStep_of_forall _ Sample.delivering_listens)

/-- A message that is queued when the user asks for a shutdown is never delivered. -/
theorem delivery_loses : ¬ ∀ (first : List FmtpMessage) (loop last : Loop) (offers : List Offer),
    Begun first loop → Run Loop.iterate loop offers last →
    EachStep Loop.iterate (fun _ offer => ∀ event, offer.listening event = true) loop offers →
    EachState Loop.iterate (Conserved first) loop offers := by
  intro claim
  have begun : Begun [] (Sample.client Fmtp.Sample.clientEntry) := ⟨_, rfl, Or.inl rfl⟩
  have run := Run.of_enabled Loop.iterate (Sample.client Fmtp.Sample.clientEntry)
    Sample.overtaking (by decide +kernel)
  have conserved := (claim [] _ _ _ begun run
    (eachStep_of_forall _ Sample.overtaking_listens)).last run
  exact absurd conserved (by decide +kernel)

end Fmtp.Tokio

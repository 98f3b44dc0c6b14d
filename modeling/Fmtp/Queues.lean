/-
This file proves that the queues of the core hand everything over once and in order, whatever
sessions, associations and control packets come in between. A machine in DataReady has its entry,
so every message is taken up there, and no other handler queues or delivers data.
-/

import Fmtp.Record

namespace Fmtp

open TransitionSystem

/-! ### A machine and its user -/

/-- What the owner of a machine can do: dispatch an event, or take from one of the queues. -/
inductive Operation
  | handle (event : Event)
  | pollTransmit
  | pollReceive

/-- A machine with its queues, what was taken from them, and the events dispatched with the
states they found, all oldest first. -/
structure Exchange where
  connection : Connection
  context : ConnectionContext
  transmitted : List FmtpPacket
  received : List FmtpMessage
  dispatches : List (State × Event)

namespace Exchange

def start (config : Config) (id : Option String) : Exchange where
  connection := .new config id
  context := .empty
  transmitted := []
  received := []
  dispatches := []

/-- One operation. A panic ends the run. -/
def step (exchange : Exchange) : Operation → Option Exchange
  | .handle event =>
    match exchange.connection.handleWithContext event exchange.context with
    | .ok (connection, context) =>
      some
        { exchange with
          connection
          context
          dispatches := exchange.dispatches ++ [(exchange.connection.state, event)] }
    | .error _ => none
  | .pollTransmit =>
    let (packet, context) := exchange.context.pollTransmit
    some { exchange with context, transmitted := exchange.transmitted ++ packet.toList }
  | .pollReceive =>
    let (msg, context) := exchange.context.pollReceive
    some { exchange with context, received := exchange.received ++ msg.toList }

end Exchange

/-- The messages of the `RData` events dispatched in DataReady. -/
def deliveries (dispatches : List (State × Event)) : List FmtpMessage :=
  dispatches.filterMap fun
    | (.dataReady _ _, .rData _ msg) => some msg
    | _ => none

/-- The messages of the `LData` events dispatched in DataReady. -/
def requests (dispatches : List (State × Event)) : List FmtpMessage :=
  dispatches.filterMap fun
    | (.dataReady _ _, .lData _ msg) => some msg
    | _ => none

/-- The packet carries a user's message. -/
def FmtpPacket.isData (packet : FmtpPacket) : Bool :=
  packet.header.typ = .operational ∨ packet.header.typ = .operator

theorem FmtpPacket.isData_fromMsg {msg : FmtpMessage} {packet : FmtpPacket}
    (built : fromMsg msg = .ok packet) : packet.isData = true :=
  decide_eq_true (fromMsg_typ built)

/-! ### What one dispatch queues and delivers -/

section Reactions

variable {self self' : ConnectionState} {state state' : State} {event : Event}
  {packets : List FmtpPacket} {messages : List FmtpMessage}

/-- Where a machine in DataReady finds its entry, the messages delivered and the data packets
queued are those of the event. -/
theorem Reaction.hands (found : (∃ tr ts, state = .dataReady tr ts) → self.entry ≠ none)
    (reaction : Reaction self state event self' state' packets messages) :
    messages = deliveries [(state, event)] ∧
      (requests [(state, event)]).map FmtpPacket.fromMsg =
        (packets.filter FmtpPacket.isData).map Except.ok := by
  cases reaction with
  | ignored quiet =>
    cases state with
    | dataReady => cases quiet
    | _ => exact ⟨rfl, rfl⟩
  | released closing =>
    cases state with
    | dataReady => cases closing
    | _ => exact ⟨rfl, rfl⟩
  | refused unexpected =>
    cases state with
    | dataReady =>
      cases event with
      | rData | lData => cases unexpected
      | _ => exact ⟨rfl, rfl⟩
    | _ => exact ⟨rfl, rfl⟩
  | missing needs absent =>
    cases state with
    | dataReady tr ts => exact absurd absent (found ⟨tr, ts, rfl⟩)
    | _ => exact ⟨rfl, rfl⟩
  | closed _ closing => rcases closing with ⟨_, rfl⟩ | rfl | rfl <;> exact ⟨rfl, rfl⟩
  | refreshed _ alive => rcases alive with rfl | rfl <;> exact ⟨rfl, rfl⟩
  | sent _ fits =>
    refine ⟨rfl, ?_⟩
    rw [List.filter_cons_of_pos (FmtpPacket.isData_fromMsg fits)]
    show [FmtpPacket.fromMsg _] = [.ok _]
    rw [fits]
  | _ => exact ⟨rfl, rfl⟩

end Reactions

/-- An event adds what its reaction queues and delivers at the ends of the queues. -/
theorem Exchange.step_handle {exchange next : Exchange} {event : Event}
    (move : exchange.step (.handle event) = some next) :
    ∃ packets messages,
      Reaction (exchange.connection.storage.beforeDispatch event) exchange.connection.state event
        next.connection.storage next.connection.state packets messages ∧
      next.context = exchange.context.extend packets messages ∧
      next.transmitted = exchange.transmitted ∧ next.received = exchange.received ∧
      next.dispatches = exchange.dispatches ++ [(exchange.connection.state, event)] := by
  unfold step at move
  dsimp only at move
  split at move
  · rename_i connection context handled
    obtain rfl := Option.some.inj move
    obtain ⟨packets, messages, reaction, rfl⟩ := Connection.handleWithContext_reaction handled
    exact ⟨packets, messages, reaction, rfl, rfl, rfl, rfl⟩
  · cases move

/-! ### Once and in order -/

/-- What was taken from the queues and what is left in them are the data of the dispatches. -/
structure Exchange.InOrder (exchange : Exchange) : Prop where
  received : exchange.received ++ exchange.context.recvQueue = deliveries exchange.dispatches
  transmitted : (requests exchange.dispatches).map FmtpPacket.fromMsg =
    ((exchange.transmitted ++ exchange.context.sendQueue).filter FmtpPacket.isData).map Except.ok

namespace Exchange.InOrder

variable {exchange next : Exchange}

/-- A dispatch in which DataReady finds its entry adds what it hands over at the ends. -/
theorem handle {event : Event} (inOrder : exchange.InOrder)
    (found : (∃ tr ts, exchange.connection.state = .dataReady tr ts) →
      (exchange.connection.storage.beforeDispatch event).entry ≠ none)
    (move : exchange.step (.handle event) = some next) : next.InOrder := by
  obtain ⟨packets, messages, reaction, context, transmitted, received, dispatches⟩ :=
    Exchange.step_handle move
  obtain ⟨given, asked⟩ := reaction.hands found
  refine ⟨?_, ?_⟩
  · rw [received, context, dispatches]
    show exchange.received ++ (exchange.context.recvQueue ++ messages) =
      deliveries (exchange.dispatches ++ [_])
    rw [deliveries, List.filterMap_append, ← List.append_assoc, inOrder.received, given]
    rfl
  · rw [transmitted, context, dispatches]
    show (requests (exchange.dispatches ++ [_])).map FmtpPacket.fromMsg =
      ((exchange.transmitted ++ (exchange.context.sendQueue ++ packets)).filter
        FmtpPacket.isData).map Except.ok
    rw [requests, List.filterMap_append, List.map_append, ← List.append_assoc,
      List.filter_append, List.map_append, ← inOrder.transmitted, ← asked]
    rfl

/-- What a poll takes from the front of a queue was the first of what was left. -/
theorem pollTransmit (inOrder : exchange.InOrder)
    (move : exchange.step .pollTransmit = some next) : next.InOrder := by
  obtain rfl := Option.some.inj move
  refine ⟨inOrder.received, ?_⟩
  have same : exchange.transmitted ++ exchange.context.sendQueue.head?.toList ++
      exchange.context.sendQueue.tail = exchange.transmitted ++ exchange.context.sendQueue := by
    rw [List.append_assoc]
    cases exchange.context.sendQueue <;> rfl
  show _ = ((exchange.transmitted ++ exchange.context.sendQueue.head?.toList ++
    exchange.context.sendQueue.tail).filter FmtpPacket.isData).map Except.ok
  rw [same]
  exact inOrder.transmitted

theorem pollReceive (inOrder : exchange.InOrder)
    (move : exchange.step .pollReceive = some next) : next.InOrder := by
  obtain rfl := Option.some.inj move
  refine ⟨?_, inOrder.transmitted⟩
  rw [← inOrder.received]
  show exchange.received ++ exchange.context.recvQueue.head?.toList ++
    exchange.context.recvQueue.tail = _
  rw [List.append_assoc]
  cases exchange.context.recvQueue <;> rfl

end Exchange.InOrder

/-- The record of the machine is kept by every operation. -/
theorem Recorded.step {config : Config} {exchange next : Exchange} {operation : Operation}
    (recorded : Recorded config exchange.connection)
    (move : exchange.step operation = some next) : Recorded config next.connection := by
  cases operation with
  | handle event =>
    obtain ⟨packets, messages, reaction, _⟩ := Exchange.step_handle move
    exact recorded.reaction reaction
  | pollTransmit | pollReceive =>
    obtain rfl := Option.some.inj move
    exact recorded

/-- After every interleaving of dispatches and polls, the messages polled and those left to poll
are the messages of the `RData` events dispatched in DataReady, in order, and the data packets
polled and those left to poll are the packets of the messages of the `LData` events dispatched
there, in order. -/
theorem queues_exactly_once {config : Config} {id : Option String} {operations : List Operation}
    {exchange : Exchange} (run : Run Exchange.step (.start config id) operations exchange) :
    exchange.received ++ exchange.context.recvQueue = deliveries exchange.dispatches ∧
      (requests exchange.dispatches).map FmtpPacket.fromMsg =
        ((exchange.transmitted ++ exchange.context.sendQueue).filter FmtpPacket.isData).map
          Except.ok := by
  have kept : ∀ (exchange : Exchange) (operation : Operation) (next : Exchange),
      Recorded config exchange.connection ∧ exchange.InOrder →
      exchange.step operation = some next →
      Recorded config next.connection ∧ next.InOrder := by
    rintro exchange operation next ⟨recorded, inOrder⟩ move
    refine ⟨recorded.step move, ?_⟩
    cases operation with
    | handle event =>
      refine inOrder.handle ?_ move
      rintro ⟨tr, ts, ready⟩
      refine recorded.found (Or.inl ?_) event
      rw [ready]
      rfl
    | pollTransmit => exact inOrder.pollTransmit move
    | pollReceive => exact inOrder.pollReceive move
  have start : Recorded config (Exchange.start config id).connection ∧
      (Exchange.start config id).InOrder := ⟨Recorded.new config id, rfl, rfl⟩
  obtain ⟨_, received, transmitted⟩ := run.preserves kept start
  exact ⟨received, transmitted⟩

namespace Sample

/-- The client of the tests sends a message, polls its packets and receives a message. -/
def exchanging : List Operation :=
  (sending.map .handle) ++ [.pollTransmit, .pollTransmit, .handle (.rData 5 (.operator [2])),
    .pollReceive, .pollTransmit]

end Sample

/-- The queues of the tests' client. -/
theorem queues_exactly_once_client : ∃ exchange : Exchange,
    Run Exchange.step (.start Sample.clientConfig none) Sample.exchanging exchange ∧
      exchange.received ++ exchange.context.recvQueue = deliveries exchange.dispatches ∧
      (requests exchange.dispatches).map FmtpPacket.fromMsg =
        ((exchange.transmitted ++ exchange.context.sendQueue).filter FmtpPacket.isData).map
          Except.ok := by
  have run := Run.of_enabled Exchange.step (.start Sample.clientConfig none) Sample.exchanging rfl
  exact ⟨_, run, queues_exactly_once run⟩

end Fmtp

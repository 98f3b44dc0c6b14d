/-
This file models the connection state machine of the core crate: the data it stores, its
eight state handlers, the dispatch around them, and the two queues between the machine and
the transport.
-/

import Fmtp.Event

namespace Fmtp

/-! ### The queues -/

structure ConnectionContext where
  sendQueue : List FmtpPacket
  recvQueue : List FmtpMessage
deriving DecidableEq

namespace ConnectionContext

def empty : ConnectionContext where
  sendQueue := []
  recvQueue := []

/-- `send_queue.push_back`. -/
def send (context : ConnectionContext) (packet : FmtpPacket) : ConnectionContext :=
  { context with sendQueue := context.sendQueue ++ [packet] }

/-- `recv_queue.push_back`. -/
def receive (context : ConnectionContext) (msg : FmtpMessage) : ConnectionContext :=
  { context with recvQueue := context.recvQueue ++ [msg] }

def pollTransmit (context : ConnectionContext) : Option FmtpPacket × ConnectionContext :=
  (context.sendQueue.head?, { context with sendQueue := context.sendQueue.tail })

def pollReceive (context : ConnectionContext) : Option FmtpMessage × ConnectionContext :=
  (context.recvQueue.head?, { context with recvQueue := context.recvQueue.tail })

end ConnectionContext

/-! ### States -/

structure Ti where
  deadline : Instant
deriving DecidableEq, Repr

structure Tr where
  deadline : Instant
deriving DecidableEq, Repr

structure Ts where
  deadline : Instant
deriving DecidableEq, Repr

inductive State
  | idle
  | connectionPending
  | idPending (ti : Ti)
  | acceptPending (ti : Ti)
  | ready (tr : Tr)
  | associationPending (tr : Tr)
  | dataReady (tr : Tr) (ts : Ts)
  | error
deriving DecidableEq, Repr

inductive Response
  | handled
  | transition (next : State)

/-- A handled event leaves the machine where it is. -/
def Response.apply (response : Response) (state : State) : State :=
  match response with
  | .handled => state
  | .transition next => next

/-- The storage shared by the handlers. -/
structure ConnectionState where
  config : Config
  server : Bool
  target : Target
  id : Option String
deriving DecidableEq

namespace ConnectionState

/-- The configured entry of the stored id. -/
def entry (self : ConnectionState) : Option ConnectionConfig :=
  self.id.bind fun id => self.config.connections.lookup id

/-- Three local events set the target, in every state and before the handler runs. -/
def beforeDispatch (self : ConnectionState) (event : Event) : ConnectionState :=
  match event with
  | .lShutdown _ => { self with target := .ready }
  | .lStartup _ => { self with target := .dataReady }
  | .lDisconnect => { self with target := .idle }
  | _ => self

/-! ### The handlers -/

def idle (self : ConnectionState) (event : Event) : ConnectionState × Response :=
  match event with
  | .rSetup now =>
    match self.config.serverTi with
    | none => (self, .transition .error)
    | some serverTi => ({ self with server := true }, .transition (.idPending ⟨now + serverTi⟩))
  | .rDisconnect | .lDisconnect => (self, .handled)
  | .lSetup id =>
    match self.config.connections.lookup id with
    | none => (self, .transition .error)
    | some config =>
      ({ self with id := some id, server := false, target := config.initialTarget },
        .transition .connectionPending)
  | .rReject | .rAccept _ | .rIdInvalid | .rIdValid _ _ | .rData _ _ | .rHeartbeat _
  | .rShutdown _ | .tiTimeout | .trTimeout _ | .tsTimeout _ | .rStartup _ | .lData _ _
  | .lShutdown _ | .lStartup _ => (self, .transition .error)

def connectionPending (self : ConnectionState) (context : ConnectionContext) (event : Event) :
    ConnectionState × ConnectionContext × Response :=
  match self.entry with
  | none => (self, context, .transition .idle)
  | some config =>
    match event with
    | .rSetup now =>
      ({ self with target := config.initialTarget },
        context.send (.handshake config.localId config.remoteId),
        .transition (.idPending ⟨now + config.ti⟩))
    | .rDisconnect | .lDisconnect => (self, context, .transition .idle)
    | .rReject | .rAccept _ | .rIdInvalid | .rIdValid _ _ | .rData _ _ | .rHeartbeat _
    | .rShutdown _ | .tiTimeout | .trTimeout _ | .tsTimeout _ | .rStartup _ | .lSetup _
    | .lData _ _ | .lShutdown _ | .lStartup _ => (self, context, .transition .error)

def idPending (self : ConnectionState) (context : ConnectionContext) (event : Event) (_ti : Ti) :
    ConnectionState × ConnectionContext × Response :=
  match event with
  | .rIdValid now id =>
    if self.server then
      let self := { self with id := some id }
      match self.entry with
      | none => (self, context, .transition .idle)
      | some config =>
        ({ self with target := config.initialTarget },
          context.send (.handshake config.localId config.remoteId),
          .transition (.acceptPending ⟨now + config.ti⟩))
    else
      match self.entry with
      | none => (self, context, .transition .idle)
      | some config => (self, context.send .accept, .transition (.ready ⟨now + config.tr⟩))
  | .rIdInvalid => (self, context.send .reject, .transition .idle)
  | .rDisconnect | .rReject | .rAccept _ | .rData _ _ | .rHeartbeat _ | .rShutdown _
  | .rStartup _ | .tiTimeout | .lDisconnect => (self, context, .transition .idle)
  | .rSetup _ | .trTimeout _ | .tsTimeout _ | .lSetup _ | .lShutdown _ | .lStartup _
  | .lData _ _ => (self, context, .transition .error)

def acceptPending (self : ConnectionState) (event : Event) (_ti : Ti) : Response :=
  match self.entry with
  | none => .transition .idle
  | some config =>
    match event with
    | .rAccept now => .transition (.ready ⟨now + config.tr⟩)
    | .rDisconnect | .rReject | .rIdInvalid | .rIdValid _ _ | .rData _ _ | .rHeartbeat _
    | .rShutdown _ | .rStartup _ | .tiTimeout | .lDisconnect => .transition .idle
    | .rSetup _ | .trTimeout _ | .tsTimeout _ | .lSetup _ | .lShutdown _ | .lStartup _
    | .lData _ _ => .transition .error

def ready (self : ConnectionState) (context : ConnectionContext) (event : Event) (_tr : Tr) :
    ConnectionState × ConnectionContext × Response :=
  match self.entry with
  | none => (self, context, .transition .idle)
  | some config =>
    match event with
    | .lStartup now =>
      (self, context.send .startup, .transition (.associationPending ⟨now + config.tr⟩))
    | .rDisconnect | .lDisconnect => (self, context, .transition .idle)
    | .rShutdown _ | .rHeartbeat _ => (self, context, .handled)
    | .rSetup _ | .rReject | .rAccept _ | .rIdInvalid | .rIdValid _ _ | .rData _ _ | .tiTimeout
    | .trTimeout _ | .tsTimeout _ | .rStartup _ | .lSetup _ | .lData _ _ | .lShutdown _ =>
      (self, context, .transition .error)

def associationPending (self : ConnectionState) (context : ConnectionContext) (event : Event)
    (_tr : Tr) : ConnectionState × ConnectionContext × Response :=
  match self.entry with
  | none => (self, context, .transition .idle)
  | some config =>
    match event with
    | .rStartup now =>
      (self, context.send .startup,
        .transition (.dataReady ⟨now + config.tr⟩ ⟨now + config.ts⟩))
    | .trTimeout now =>
      (self, context.send .startup, .transition (.associationPending ⟨now + config.tr⟩))
    | .rDisconnect => (self, context, .transition .idle)
    | .lDisconnect => (self, context.send .shutdown, .transition .idle)
    | .lShutdown now => (self, context.send .shutdown, .transition (.ready ⟨now + config.tr⟩))
    | .rSetup _ | .rReject | .rAccept _ | .rIdInvalid | .rIdValid _ _ | .rData _ _
    | .rHeartbeat _ | .rShutdown _ | .tiTimeout | .tsTimeout _ | .lSetup _ | .lData _ _
    | .lStartup _ => (self, context, .transition .error)

/-- Sending a user's message is the only handler that can panic: the message may be larger
than a packet holds. -/
def dataReady (self : ConnectionState) (context : ConnectionContext) (event : Event) (tr : Tr)
    (ts : Ts) : Outcome (ConnectionState × ConnectionContext × Response) :=
  match self.entry with
  | none => .ok (self, context, .transition .idle)
  | some config =>
    match event with
    | .tsTimeout now =>
      .ok (self, context.send .heartbeat, .transition (.dataReady tr ⟨now + config.ts⟩))
    | .trTimeout _ | .rDisconnect | .lDisconnect =>
      .ok (self, context.send .shutdown, .transition .idle)
    | .rData now msg =>
      .ok (self, context.receive msg, .transition (.dataReady ⟨now + config.tr⟩ ts))
    | .rHeartbeat now | .rStartup now =>
      .ok (self, context, .transition (.dataReady ⟨now + config.tr⟩ ts))
    | .rShutdown now =>
      .ok (self, context.send .shutdown, .transition (.associationPending ⟨now + config.tr⟩))
    | .lData now msg =>
      match FmtpPacket.fromMsg msg with
      | .ok packet =>
        .ok (self, context.send packet, .transition (.dataReady tr ⟨now + config.ts⟩))
      | .error fault => .error fault
    | .lShutdown now =>
      .ok (self, context.send .shutdown, .transition (.ready ⟨now + config.tr⟩))
    | .rSetup _ | .rReject | .rAccept _ | .rIdInvalid | .rIdValid _ _ | .tiTimeout | .lSetup _
    | .lStartup _ => .ok (self, context, .transition .error)

def error : Response := .handled

end ConnectionState

/-! ### The machine -/

structure Connection where
  state : State
  storage : ConnectionState
deriving DecidableEq

namespace Connection

def new (config : Config) (id : Option String) : Connection where
  state := .idle
  storage := { config, server := false, id, target := .idle }

/-- One dispatch: the hook that sets the target, then the handler of the current state, then
its response. -/
def handleWithContext (connection : Connection) (event : Event) (context : ConnectionContext) :
    Outcome (Connection × ConnectionContext) :=
  let self := connection.storage.beforeDispatch event
  match connection.state with
  | .idle =>
    let (storage, response) := self.idle event
    .ok ({ state := response.apply connection.state, storage }, context)
  | .connectionPending =>
    let (storage, context, response) := self.connectionPending context event
    .ok ({ state := response.apply connection.state, storage }, context)
  | .idPending ti =>
    let (storage, context, response) := self.idPending context event ti
    .ok ({ state := response.apply connection.state, storage }, context)
  | .acceptPending ti =>
    let response := self.acceptPending event ti
    .ok ({ state := response.apply connection.state, storage := self }, context)
  | .ready tr =>
    let (storage, context, response) := self.ready context event tr
    .ok ({ state := response.apply connection.state, storage }, context)
  | .associationPending tr =>
    let (storage, context, response) := self.associationPending context event tr
    .ok ({ state := response.apply connection.state, storage }, context)
  | .dataReady tr ts =>
    match self.dataReady context event tr ts with
    | .ok (storage, context, response) =>
      .ok ({ state := response.apply connection.state, storage }, context)
    | .error fault => .error fault
  | .error =>
    .ok ({ state := ConnectionState.error.apply connection.state, storage := self }, context)

/-- Decode the front of the buffer, translate the packet and dispatch its event. -/
def handleRemotePacket (connection : Connection) (bytes : List Byte) (received : Nat)
    (now : Instant) (context : ConnectionContext) : Outcome (Connection × ConnectionContext) :=
  match FmtpPacket.fromBytes bytes with
  | .error fault => .error fault
  | .ok packet =>
    match Event.fromIncomingPacket received packet now connection.storage.config
        connection.storage.id with
    | .error fault => .error fault
    | .ok event => connection.handleWithContext event context

end Connection

end Fmtp

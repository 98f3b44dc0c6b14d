/-
This file models the asynchronous connection of the tokio crate: the loop that races the
queued packets, the user's commands, the received messages, the timers and the socket, and
the reconnection it decides on when the machine is back in Idle.

One iteration of the loop is one step. What the loop cannot know (which branches are ready,
what the socket answers, what time it is) is an `Offer` of the environment. The branches of
the race are tried in textual order, and the two futures over the queues pop their queue when
they are made, also for a branch that then is disabled or not selected. The run keeps a ghost
log of what it does.
-/

import Fmtp.History

namespace Fmtp.Tokio

/-- Events emitted to the user. -/
inductive ConnectionEvent
  | stateChanged (state : State)
  | connectionIdDetermined (id : String)
  | dataReceived (msg : FmtpMessage)
deriving DecidableEq, Repr

/-- What a run does, as its ghost log keeps it. The sockets of a run are numbered. -/
inductive Action
  | dispatched (entry : Dispatched)
  | connected (socket : Nat) (address : SocketAddr)
  | wrote (socket : Nat) (packet : FmtpPacket) (bytes : List Byte)
  | shut (socket : Nat)
  | sent (event : ConnectionEvent)

/-! ### The environment -/

/-- The persistent buffer of `run`. -/
abbrev Buffer := { bytes : List Byte // bytes.length = 10240 }

/-- The bytes one read can give. -/
abbrev Chunk := { bytes : List Byte // bytes.length ≤ 10240 }

def Buffer.zero : Buffer := ⟨List.replicate 10240 0, List.length_replicate⟩

/-- A read overwrites the front of the buffer. -/
def Buffer.fill (buffer : Buffer) (chunk : Chunk) : Buffer :=
  ⟨chunk.1 ++ buffer.1.drop chunk.1.length, by
    have size := buffer.2
    have fits := chunk.2
    rw [List.length_append, List.length_drop]
    omega⟩

/-- The two timers that race in DataReady. -/
inductive Timer
  | tr
  | ts
deriving DecidableEq, Repr

/-- What the environment answers in one iteration: the command in the channel (`none` inside
for a closed channel), the time, the timer that wins where both are over, what a read gives
(`none` inside for an error), what a write accepts (`none` for an error), when the dialled
addresses connect, how a shutdown of the socket fails, and which events the receiver takes. -/
structure Offer where
  command : Option (Option UserCommand)
  clock : Instant
  timer : Timer
  read : Option (Option Chunk)
  write : Option Nat
  dial : Nat → Option Instant
  shutdown : Option String
  listening : ConnectionEvent → Bool

/-! ### The connection -/

/-- The state machine with its queues, and the ghost log. -/
structure Connection where
  inner : Fmtp.Connection
  ctx : ConnectionContext
  log : List Action

namespace Connection

def new (cfg : Config) (connectionId : Option String) : Connection where
  inner := .new cfg connectionId
  ctx := .empty
  log := []

def record (connection : Connection) (action : Action) : Connection :=
  { connection with log := connection.log ++ [action] }

def dispatch (connection : Connection) (event : Event) : Outcome Connection :=
  match connection.inner.handleWithContext event connection.ctx with
  | .ok (inner, ctx) =>
    .ok
      { inner
        ctx
        log := connection.log ++
          [.dispatched (.of connection.inner event connection.ctx inner ctx)] }
  | .error fault => .error fault

/-- `handle_remote_packet`, with its dispatch recorded. -/
def handleRemotePacket (connection : Connection) (bytes : List Byte) (received : Nat)
    (now : Instant) : Outcome Connection :=
  match FmtpPacket.fromBytes bytes with
  | .error fault => .error fault
  | .ok packet =>
    match Event.fromIncomingPacket received packet now connection.inner.storage.config
        connection.inner.storage.id with
    | .error fault => .error fault
    | .ok event => connection.dispatch event

/-- The record adds nothing to what the machine does. -/
theorem handleRemotePacket_eq (connection : Connection) (bytes : List Byte) (received : Nat)
    (now : Instant) :
    (connection.handleRemotePacket bytes received now).map (fun next => (next.inner, next.ctx)) =
      connection.inner.handleRemotePacket bytes received now connection.ctx := by
  unfold handleRemotePacket Fmtp.Connection.handleRemotePacket
  cases FmtpPacket.fromBytes bytes with
  | error fault => rfl
  | ok packet =>
    dsimp only
    cases Event.fromIncomingPacket received packet now connection.inner.storage.config
        connection.inner.storage.id with
    | error fault => rfl
    | ok event =>
      dsimp only [dispatch]
      cases connection.inner.handleWithContext event connection.ctx <;> rfl

/-- What `connect` answers when no address connects. -/
def notConnected (key : String) : Fault :=
  .error ("Could not connect to any address: " ++ key)

/-- Dial the addresses in order up to the first that connects, and answer it with its socket.
Before each one the machine is set up again, after a failure it is disconnected. `count` addresses
were dialled before. -/
def dialAll (key : String) (dial : Nat → Option Instant) (socket : Nat) :
    List SocketAddr → Nat → Connection → Outcome (Connection × Outcome (SocketAddr × Nat))
  | [], _, connection => .ok (connection, .error (notConnected key))
  | address :: rest, count, connection =>
    match connection.dispatch (.lSetup key) with
    | .error fault => .error fault
    | .ok connection =>
      match dial count with
      | none =>
        match connection.dispatch .rDisconnect with
        | .error fault => .error fault
        | .ok connection => connection.dialAll key dial socket rest (count + 1)
      | some now =>
        match (connection.record (.connected socket address)).dispatch (.rSetup now) with
        | .error fault => .error fault
        | .ok connection => .ok (connection, .ok (address, socket))

/-- The address that connected with its new socket. A key without an entry has no addresses. -/
def connect (connection : Connection) (key : String) (dial : Nat → Option Instant)
    (socket : Nat) : Outcome (Connection × Outcome (SocketAddr × Nat)) :=
  match connection.inner.storage.config.connections.lookup key with
  | none => .ok (connection, .error (notConnected key))
  | some entry => connection.dialAll key dial socket entry.remoteAddresses 0

end Connection

/-- The event of a user's command. -/
def commandEvent (now : Instant) : UserCommand → Event
  | .data msg => .lData now msg
  | .shutdown => .lShutdown now
  | .startup => .lStartup now
  | .setup id => .lSetup id
  | .disconnect => .lDisconnect

/-! ### The loop -/

/-- The loop at the top of an iteration: the connection, the socket and the number of sockets
there were, the buffer, the state and the id last reported to the user, and how the run ended
once it has. -/
structure Loop where
  connection : Connection
  socket : Option Nat
  sockets : Nat
  buffer : Buffer
  state : State
  id : Option String
  result : Option (Outcome Unit)

/-- What the block over the state comes to when it is ready. -/
inductive Turn
  | idle
  | failed (text : String)
  | slept
  | raised (event : Event)
deriving DecidableEq, Repr

/-- The branch of the race that is selected. -/
inductive Branch
  | transmit (packet : FmtpPacket)
  | command (received : Option UserCommand)
  | receive (msg : FmtpMessage)
  | machine (turn : Turn)
  | read (received : Option Chunk)
deriving DecidableEq

/-- The block over the state: nothing while it sleeps. -/
def turn (inner : Fmtp.Connection) (offer : Offer) : Option Turn :=
  match inner.state with
  | .idle => some .idle
  | .connectionPending =>
    some (.failed "Unexpectedly remained in intermediate state CONNECTION_PENDING")
  | .idPending ti | .acceptPending ti =>
    if ti.deadline ≤ offer.clock then some (.raised .tiTimeout) else none
  | .ready tr =>
    if inner.storage.target = .dataReady then some (.raised (.lStartup offer.clock))
    else if tr.deadline ≤ offer.clock then some .slept
    else none
  | .associationPending tr =>
    if tr.deadline ≤ offer.clock then some (.raised (.trTimeout offer.clock)) else none
  | .dataReady tr ts =>
    if tr.deadline ≤ offer.clock ∧ (offer.timer = .tr ∨ offer.clock < ts.deadline) then
      some (.raised (.trTimeout offer.clock))
    else if ts.deadline ≤ offer.clock then some (.raised (.tsTimeout offer.clock))
    else none
  | .error => some (.failed "reached state ERROR, terminating")

namespace Loop

/-- `run` on a connection, with the accepted socket if there is one. The log is that of this
run. -/
def start (connection : Connection) (socket : Option Nat) (sockets : Nat) : Loop where
  connection := { connection with log := [] }
  socket
  sockets
  buffer := .zero
  state := .idle
  id := none
  result := none

/-- The first branch that is ready. -/
def select (loop : Loop) (offer : Offer) : Option Branch :=
  let ctx := loop.connection.ctx
  match loop.socket, ctx.pollTransmit.1 with
  | some _, some packet => some (.transmit packet)
  | _, _ =>
    match offer.command with
    | some received => some (.command received)
    | none =>
      match ctx.pollReceive.1 with
      | some msg => some (.receive msg)
      | none =>
        match turn loop.connection.inner offer with
        | some turn => some (.machine turn)
        | none =>
          match loop.socket with
          | some _ => offer.read.map .read
          | none => none

/-- The two futures pop their queues when they are made. -/
def pop (loop : Loop) : Loop :=
  { loop with
    connection :=
      { loop.connection with ctx := loop.connection.ctx.pollTransmit.2.pollReceive.2 } }

/-- The run returns early with an error, or panics. -/
def fail (loop : Loop) (fault : Fault) : Loop :=
  { loop with result := some (.error fault) }

def dispatch (loop : Loop) (event : Event) : Loop :=
  match loop.connection.dispatch event with
  | .ok connection => { loop with connection }
  | .error fault => loop.fail fault

def record (loop : Loop) (action : Action) : Loop :=
  { loop with connection := loop.connection.record action }

/-- Leave the loop: the socket, if there is one, is shut down. -/
def leave (loop : Loop) (offer : Offer) : Loop :=
  match loop.socket with
  | none => { loop with result := some (.ok ()) }
  | some socket =>
    let loop := loop.record (.shut socket)
    match offer.shutdown with
    | none => { loop with result := some (.ok ()) }
    | some text => loop.fail (.error text)

/-- `send_packet`: whatever the write accepts is taken for the whole packet. -/
def sendPacket (loop : Loop) (offer : Offer) (packet : FmtpPacket) : Loop :=
  match loop.socket with
  | none => loop.fail (.panic "called `Option::unwrap()` on a `None` value")
  | some socket =>
    match offer.write with
    | some accepted => loop.record (.wrote socket packet (packet.intoBytes.take accepted))
    | none => (loop.record (.wrote socket packet [])).dispatch .rDisconnect

/-- The retry timer of a client's entry. -/
def retryTimer (loop : Loop) (id : String) : Option Duration :=
  (loop.connection.inner.storage.config.connections.lookup id).bind fun entry =>
    if entry.role = .client then entry.connectRetryTimer else none

/-- Connect again and keep the new socket if there is one; `otherwise` says what happens if
there is none. -/
def reconnect (loop : Loop) (offer : Offer) (id : String) (otherwise : Loop → Loop) : Loop :=
  match loop.connection.connect id offer.dial loop.sockets with
  | .error fault => loop.fail fault
  | .ok (connection, .ok (_, socket)) =>
    { loop with connection, socket := some socket, sockets := loop.sockets + 1 }
  | .ok (connection, .error _) => otherwise { loop with connection }

/-- The arm of a machine in Idle. -/
def idleArm (loop : Loop) (offer : Offer) : Loop :=
  match loop.connection.inner.storage.id with
  | none => loop.leave offer
  | some id =>
    match loop.socket with
    | none =>
      loop.reconnect offer id fun loop =>
        match loop.retryTimer id with
        | some _ => loop
        | none => loop.leave offer
    | some socket =>
      match loop.retryTimer id with
      | some _ =>
        let loop := loop.record (.shut socket)
        match offer.shutdown with
        | some text => loop.fail (.error text)
        | none => loop.reconnect offer id fun loop => loop
      | none => loop.leave offer

/-- The arm of the read branch. -/
def readArm (loop : Loop) (offer : Offer) (received : Option Chunk) : Loop :=
  match received with
  | none => loop.dispatch .rDisconnect
  | some chunk =>
    let loop := { loop with buffer := loop.buffer.fill chunk }
    match loop.connection.handleRemotePacket loop.buffer.1 chunk.1.length offer.clock with
    | .ok connection => { loop with connection }
    | .error fault => loop.fail fault

/-- The selected arm. -/
def arm (loop : Loop) (offer : Offer) : Branch → Loop
  | .transmit packet => loop.sendPacket offer packet
  | .command none => loop.leave offer
  | .command (some command) => loop.dispatch (commandEvent offer.clock command)
  | .receive msg =>
    if offer.listening (.dataReceived msg) then loop.record (.sent (.dataReceived msg))
    else loop.leave offer
  | .machine .idle => loop.idleArm offer
  | .machine (.failed _) => loop.leave offer
  | .machine .slept => loop
  | .machine (.raised event) => loop.dispatch event
  | .read received => loop.readArm offer received

/-- Send an event after the race; a closed receiver ends the run with an error. -/
def send (loop : Loop) (offer : Offer) (event : ConnectionEvent) : Loop :=
  if offer.listening event then loop.record (.sent event)
  else loop.fail (.error "channel closed")

/-- The id is reported once. -/
def reportId (loop : Loop) (offer : Offer) : Loop :=
  match loop.id, loop.connection.inner.storage.id with
  | none, some id => { loop with id := some id }.send offer (.connectionIdDetermined id)
  | _, _ => loop

/-- The state is reported whenever it differs from the one last reported. -/
def reportState (loop : Loop) (offer : Offer) : Loop :=
  if loop.connection.inner.state = loop.state then loop
  else
    let state := loop.connection.inner.state
    { loop with state }.send offer (.stateChanged state)

/-- A step of the loop, unless the run has ended. -/
def andThen (loop : Loop) (next : Loop → Loop) : Loop :=
  match loop.result with
  | none => next loop
  | some _ => loop

/-- One iteration: the race, the selected arm, and the reports after it. -/
def iterate (loop : Loop) (offer : Offer) : Option Loop :=
  match loop.result with
  | some _ => none
  | none =>
    (loop.select offer).map fun branch =>
      ((loop.pop.arm offer branch).andThen (·.reportId offer)).andThen (·.reportState offer)

end Loop

namespace Connection

/-- `run_client`. -/
def runClient (connection : Connection) : Loop :=
  .start connection none 0

/-- `run_server` on an accepted socket. -/
def runServer (connection : Connection) (now : Instant) : Loop :=
  (Loop.start connection (some 0) 1).dispatch (.rSetup now)

end Connection

/-! ### The offers of the crate's client example -/

namespace Sample

/-- Nothing is ready, and the receiver is open. -/
def quiet : Offer where
  command := none
  clock := 1
  timer := .ts
  read := none
  write := none
  dial := fun _ => none
  shutdown := none
  listening := fun _ => true

/-- Every address answers at once. -/
def answering : Offer :=
  { quiet with dial := fun _ => some 1 }

/-- The socket accepts whatever is written. -/
def writable : Offer :=
  { quiet with write := some 10240 }

def commanding (command : UserCommand) : Offer :=
  { quiet with command := some (some command) }

def incoming (chunk : Chunk) : Offer :=
  { quiet with read := some (some chunk) }

/-- The handshake of the server. -/
def handshakeChunk : Chunk :=
  ⟨(FmtpPacket.handshake Fmtp.Sample.serverId Fmtp.Sample.clientId).intoBytes, by decide⟩

/-- The handshake of the client. -/
def greetingChunk : Chunk :=
  ⟨(FmtpPacket.handshake Fmtp.Sample.clientId Fmtp.Sample.serverId).intoBytes, by decide⟩

def startupChunk : Chunk := ⟨FmtpPacket.startup.intoBytes, by decide⟩

/-- A client connects, identifies itself and associates. -/
def association : List Offer :=
  [answering, writable, incoming handshakeChunk, writable, quiet, writable,
    incoming startupChunk, writable]

theorem association_listens : ∀ offer ∈ association, ∀ event, offer.listening event = true := by
  simp [association, answering, writable, incoming, quiet]

/-- The client of an entry under the key of the tests. -/
def client (entry : ConnectionConfig) : Loop :=
  (Connection.new { Fmtp.Sample.clientConfig with connections := AList.singleton "test" entry }
    (some "test")).runClient

end Sample

end Fmtp.Tokio

/-
This file models the whole HTTP node: the daemon with its event tasks, the connection task of
each of them, the two bounded channels between the two, and the HTTP handlers, which look a
connection up under the daemon's lock and hold the lock until its command channel has room. A step
is what one task does between two points at which it may wait. The accept loop and the tasks of the
clients are in one set, which `main` waits for; the panic of one of them takes the others along.
-/

import Fmtp.Registry
import Fmtp.Reports

namespace Fmtp.Http

open Tokio

/-- The room of every channel of the daemon. -/
def channelSize : Nat := 1024

/-! ### A connection and its event task -/

/-- Whether the connection was accepted or is a client's, its loop, whether the task of the loop was
cancelled, the events of the last iteration that it has yet to send, the event channel, what its
event task has received and not handled (`none` inside once the channel is closed), the command
channel, and the message channel, which nobody reads. What a cancelled task had yet to send is never
sent. As ghosts, the commands that were accepted and the offers of the iterations. -/
structure Link where
  role : Role
  loop : Loop
  cancelled : Bool
  pending : List ConnectionEvent
  channel : List ConnectionEvent
  hand : Option (Option ConnectionEvent)
  commands : List UserCommand
  messages : List FmtpMessage
  accepted : List UserCommand
  offers : List Offer

namespace Link

/-- The tasks of a new connection. -/
def new (role : Role) (loop : Loop) : Link where
  role
  loop
  cancelled := false
  pending := []
  channel := []
  hand := none
  commands := []
  messages := []
  accepted := []
  offers := []

/-- What the environment offers a loop whose command channel and event receiver are those of the
node: the first command, or nothing, or the end of the channel once its senders are gone. -/
def offer (link : Link) (closed listens : Bool) (offer : Offer) : Offer :=
  { offer with
    command :=
      match link.commands with
      | command :: _ => some (some command)
      | [] => if closed then some none else none
    listening := fun _ => listens }

/-- The commands that an iteration receives. -/
def received (loop : Loop) (offer : Offer) : List UserCommand :=
  match loop.select offer with
  | some (.command command) => command.toList
  | _ => []

/-- One iteration, once the events of the last one are sent. -/
def iterate (link : Link) (offer : Offer) : Option Link :=
  match link.cancelled, link.pending with
  | true, _ | _, _ :: _ => none
  | false, [] =>
    (link.loop.iterate offer).map fun loop =>
      { link with
        loop
        pending := eventsSince link.loop loop
        commands := link.commands.drop (received link.loop offer).length
        offers := link.offers ++ [offer] }

/-- The loop sends its next event, or ends where the receiver is gone. -/
def send (link : Link) (listens : Bool) (offer : Offer) : Option Link :=
  match link.cancelled, link.pending with
  | true, _ | _, [] => none
  | false, event :: pending =>
    if listens then
      if link.channel.length < channelSize then
        some { link with pending, channel := link.channel ++ [event] }
      else none
    else
      let loop :=
        match event with
        | .dataReceived _ => link.loop.leave offer
        | .stateChanged _ | .connectionIdDetermined _ => link.loop.fail (.error "channel closed")
      some { link with loop, pending := [] }

/-- The task of the loop has returned, or was cancelled. -/
def Gone (link : Link) : Prop :=
  link.cancelled = true ∨ link.loop.result ≠ none ∧ link.pending = []

instance (link : Link) : Decidable link.Gone :=
  inferInstanceAs (Decidable (_ ∨ _ ∧ _))

/-- The event task receives the next event, or the end of the channel once the loop is gone. -/
def take (link : Link) : Option Link :=
  match link.hand, link.channel with
  | none, event :: channel => some { link with channel, hand := some (some event) }
  | none, [] => if link.Gone then some { link with hand := some none } else none
  | some _, _ => none

/-- The task of a client's loop has panicked. -/
def panicked (link : Link) : Bool :=
  match link.role, link.loop.result with
  | .client, some (.error (.panic _)) => link.pending = []
  | _, _ => false

/-- A command goes into the channel. -/
def post (link : Link) (command : UserCommand) : Link :=
  { link with commands := link.commands ++ [command], accepted := link.accepted ++ [command] }

/-- The events between the loop and the registry, the oldest first. What a cancelled task had yet to
send stays the last of them. -/
def queue (link : Link) : List ConnectionEvent :=
  link.hand.join.toList ++ link.channel ++ link.pending

end Link

/-- What the event task does about what it has received. -/
def deed : Option ConnectionEvent → Daemon.Deed
  | some (.stateChanged state) => .stateChanged state
  | some (.connectionIdDetermined id) => .connectionIdDetermined id
  | some (.dataReceived msg) => .dataReceived msg
  | none => .close

/-- Whether it needs the lock for that. The id of a client is only logged. -/
def locks (role : Role) : Option ConnectionEvent → Bool
  | some (.dataReceived _) => false
  | some (.connectionIdDetermined _) => role = .server
  | some (.stateChanged _) | none => true

/-! ### The handlers -/

/-- The routes. -/
inductive Call
  | list
  | get (connId : String)
  | post (connId : String) (command : UserCommand)
deriving DecidableEq

def getAll : Call :=
  .list

def connGet (connId : String) : Call :=
  .get connId

def connData (connId : String) (data : List Byte) : Call :=
  .post connId (.data (.operational data))

def connAssociate (connId : String) : Call :=
  .post connId .startup

def connShutdown (connId : String) : Call :=
  .post connId .shutdown

def connDisconnect (connId : String) : Call :=
  .post connId .disconnect

/-- What a handler answers: the map or the entry that it prints, nothing, 404, or 500 with the text
of the error. -/
inductive Response
  | listing (connections : AList fun _ : String => Daemon.ConnectionState)
  | entry (connection : Daemon.ConnectionState)
  | ok
  | notFound
  | internalServerError (text : String)
deriving DecidableEq

/-- A handler before it has the lock, with the lock before the channel of a connection, and after
its answer. A handler is dropped where its client goes away. -/
inductive Request
  | absent
  | calling (call : Call)
  | sending (connId : String) (task : Nat) (command : UserCommand)
  | answered (response : Response)
  | dropped
deriving DecidableEq

/-! ### The node -/

/-- The holder is the handler that waits for a channel with the lock in its hands. The accept loop
accepts until it is cancelled, and `aborted` says that `main` has dropped the set of the tasks. -/
structure Node where
  daemon : Daemon
  links : Nat → Option Link
  requests : Nat → Request
  holder : Option Nat
  accepting : Bool
  aborted : Bool

inductive Label
  | accept (task : Nat) (remoteAddr : SocketAddr) (now : Instant)
  | insert (task : Nat) (uuid : String)
  | client (task : Nat)
  | iterate (task : Nat) (offer : Offer)
  | send (task : Nat) (offer : Offer)
  | take (task : Nat)
  | handle (task : Nat)
  | reinsert (task : Nat)
  | call (request : Nat) (call : Call)
  | acquire (request : Nat)
  | complete (request : Nat)
  | drop (request : Nat)
  | abort (task : Nat)
  | cancel (task : Nat)
  | cancelAccept

namespace Node

/-- The event task has not returned. -/
def listens (node : Node) (task : Nat) : Bool :=
  node.daemon.tasks task ≠ .ended

/-- All senders of a connection's commands are gone: its entry, and for a server its event task,
which keeps a sender of its own. -/
def closed (node : Node) (task : Nat) : Bool :=
  match node.daemon.tasks task with
  | .absent | .accepted _ | .waiting .server _ | .rekeying _ _ _ => false
  | .waiting .client _ | .ended => !node.daemon.receives task

def setLink (node : Node) (task : Nat) (link : Link) : Node :=
  { node with links := Function.update node.links task (some link) }

/-- A handler answers, and the lock is free. -/
def answer (node : Node) (request : Nat) (response : Response) : Node :=
  { node with
    requests := Function.update node.requests request (.answered response)
    holder := none }

/-- A task of the daemon does something under the lock. -/
def underLock (node : Node) (label : Daemon.Label) : Option Node :=
  match node.holder with
  | some _ => none
  | none => (node.daemon.step label).map fun daemon => { node with daemon }

/-- The event task handles what it has received. A message waits for room while its receiver
exists. -/
def handle (node : Node) (task : Nat) : Option Node :=
  match node.links task, node.daemon.tasks task with
  | some link, .waiting role _ =>
    match link.hand with
    | none => none
    | some received =>
      let done (messages : List FmtpMessage) : Option Node :=
        (node.daemon.step ⟨task, deed received⟩).map fun daemon =>
          { node.setLink task { link with hand := none, messages } with daemon }
      match received with
      | some (.dataReceived msg) =>
        if node.daemon.receives task then
          if link.messages.length < channelSize then done (link.messages ++ [msg]) else none
        else done link.messages
      | _ => if locks role received ∧ node.holder ≠ none then none else done link.messages
  | _, _ => none

/-- A handler takes the lock and looks up its connection. It keeps the lock where it has a command
to send. -/
def acquire (node : Node) (request : Nat) : Option Node :=
  match node.holder, node.requests request with
  | none, .calling .list => some (node.answer request (.listing node.daemon.connections))
  | none, .calling (.get connId) =>
    match node.daemon.connections.lookup connId with
    | some connection => some (node.answer request (.entry connection))
    | none => some (node.answer request .notFound)
  | none, .calling (.post connId command) =>
    match node.daemon.connections.lookup connId with
    | some connection =>
      some
        { node with
          requests := Function.update node.requests request
            (.sending connId connection.commandTx command)
          holder := some request }
    | none => some (node.answer request .notFound)
  | _, _ => none

/-- The channel takes the command, or is found closed since the loop is gone. -/
def complete (node : Node) (request : Nat) : Option Node :=
  match node.requests request with
  | .sending _ task command =>
    match node.links task with
    | none => none
    | some link =>
      if link.cancelled = true ∨ link.loop.result ≠ none then
        some (node.answer request (.internalServerError "channel closed"))
      else if link.commands.length < channelSize then
        some ((node.setLink task (link.post command)).answer request .ok)
      else none
  | _ => none

/-- The client goes away, and the handler with it. -/
def drop (node : Node) (request : Nat) : Option Node :=
  let gone (holder : Option Nat) : Node :=
    { node with requests := Function.update node.requests request .dropped, holder }
  match node.requests request with
  | .calling _ => some (gone node.holder)
  | .sending _ _ _ => some (gone none)
  | .absent | .answered _ | .dropped => none

/-- `join_all` meets the panic of a task: it panics, and its set is dropped. `main` waits there once
all the clients are started. -/
def abort (node : Node) (task : Nat) : Option Node :=
  (node.links task).bind fun link =>
    if node.daemon.clients = [] ∧ link.panicked = true then some { node with aborted := true }
    else none

/-- A task of the dropped set is cancelled where it waits next, if it has not returned. -/
def cancel (node : Node) (task : Nat) : Option Node :=
  (node.links task).bind fun link =>
    if node.aborted = true ∧ link.role = .client ∧ ¬ link.Gone then
      some (node.setLink task { link with cancelled := true })
    else none

def step (node : Node) : Label → Option Node
  | .accept task remoteAddr now =>
    if node.accepting then
      (node.daemon.step ⟨task, .accept remoteAddr⟩).map fun daemon =>
        { node.setLink task
            (.new .server ((Tokio.Connection.new node.daemon.config none).runServer now)) with
          daemon }
    else none
  | .insert task uuid => node.underLock ⟨task, .insert uuid⟩
  | .client task =>
    match node.daemon.clients with
    | [] => none
    | id :: _ =>
      (node.underLock ⟨task, .client⟩).map fun next =>
        next.setLink task
          (.new .client (Tokio.Connection.new node.daemon.config (some id)).runClient)
  | .iterate task offer =>
    (node.links task).bind fun link =>
      (link.iterate (link.offer (node.closed task) (node.listens task) offer)).map
        (node.setLink task)
  | .send task offer =>
    (node.links task).bind fun link =>
      (link.send (node.listens task) offer).map (node.setLink task)
  | .take task =>
    match node.daemon.tasks task with
    | .waiting _ _ => (node.links task).bind fun link => link.take.map (node.setLink task)
    | _ => none
  | .handle task => node.handle task
  | .reinsert task => node.underLock ⟨task, .reinsert⟩
  | .call request call =>
    match node.requests request with
    | .absent =>
      some { node with requests := Function.update node.requests request (.calling call) }
    | _ => none
  | .acquire request => node.acquire request
  | .complete request => node.complete request
  | .drop request => node.drop request
  | .abort task => node.abort task
  | .cancel task => node.cancel task
  | .cancelAccept => if node.aborted then some { node with accepting := false } else none

/-- `main`: the daemon has started, and nothing has been accepted or called. -/
def start (config : Config) : Outcome Node :=
  (Daemon.run config).map fun daemon =>
    { daemon
      links := fun _ => none
      requests := fun _ => .absent
      holder := none
      accepting := true
      aborted := false }

/-- What a step does in the daemon. -/
def daemonLabel (node : Node) : Label → Option Daemon.Label
  | .accept task remoteAddr _ => some ⟨task, .accept remoteAddr⟩
  | .insert task uuid => some ⟨task, .insert uuid⟩
  | .client task => some ⟨task, .client⟩
  | .handle task => (node.links task).bind fun link => link.hand.map fun event => ⟨task, deed event⟩
  | .reinsert task => some ⟨task, .reinsert⟩
  | .iterate _ _ | .send _ _ | .take _ | .call _ _ | .acquire _ | .complete _ | .drop _
  | .abort _ | .cancel _ | .cancelAccept => none

/-- An insertion of the step finds its key unused. -/
def Orderly (node : Node) (label : Label) : Prop :=
  ∀ entry ∈ node.daemonLabel label, node.daemon.Unused entry

instance (node : Node) (label : Label) : Decidable (node.Orderly label) :=
  inferInstanceAs (Decidable (∀ entry ∈ node.daemonLabel label, node.daemon.Unused entry))

end Node

end Fmtp.Http

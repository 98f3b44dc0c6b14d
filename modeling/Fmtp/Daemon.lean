/-
This file models the daemon of the tokio crate: the tasks that handle the events of accepted
connections and of configured clients, and the one map they share behind a lock. A step is
what one task does under one acquisition of the lock, so the two acquisitions of a re-keying
are two steps, and any other task may come between them.
-/

import Fmtp.Connection

namespace Fmtp.Tokio

/-! ### The map of connections -/

namespace Daemon

/-- The entry of a connection. Each of its channel ends is named by the task at the other end. -/
structure ConnectionState where
  state : State
  remoteAddr : Option SocketAddr
  commandTx : Nat
  msgRx : Nat
deriving DecidableEq

/-- Where a task that handles the events of a connection stands: accepted and not yet in the map,
waiting for an event under its current id, between the removal and the insertion of a re-keying
with the entry in its hands, or returned. -/
inductive Handler
  | absent
  | accepted (remoteAddr : SocketAddr)
  | waiting (role : Role) (id : String)
  | rekeying (id determinedId : String) (connection : ConnectionState)
  | ended
deriving DecidableEq

/-- What a task does under the lock. -/
inductive Deed
  | accept (remoteAddr : SocketAddr)
  | insert (uuid : String)
  | client
  | stateChanged (state : State)
  | connectionIdDetermined (determinedId : String)
  | reinsert
  | dataReceived (msg : FmtpMessage)
  | close
deriving DecidableEq

structure Label where
  task : Nat
  deed : Deed
deriving DecidableEq

end Daemon

/-- The tasks are numbered in the order in which they are spawned. `clients` are the configured
clients that are not yet started. -/
structure Daemon where
  config : Config
  connections : AList fun _ : String => Daemon.ConnectionState
  tasks : Nat → Daemon.Handler
  spawned : Nat
  clients : List String

namespace Daemon

/-- `Daemon::run`: nothing is accepted yet and no client is started. A server entry needs an
address to bind. -/
def run (config : Config) : Outcome Daemon :=
  let server := config.connections.entries.find? fun entry => entry.2.role = .server
  match config.bindAddress, server with
  | none, some ⟨name, _⟩ =>
    .error (.error ("Binding as server for " ++ name ++ ", but no bind address specified"))
  | _, _ =>
    .ok
      { config
        connections := ∅
        tasks := fun _ => .absent
        spawned := 0
        clients := (config.connections.entries.filter fun entry => entry.2.role = .client).map
          Sigma.fst }

def become (daemon : Daemon) (task : Nat) (handler : Handler) : Daemon :=
  { daemon with tasks := Function.update daemon.tasks task handler }

/-- The map with an entry under an id; an entry that was there is dropped. -/
def insert (daemon : Daemon) (id : String) (connection : ConnectionState) : Daemon :=
  { daemon with connections := daemon.connections.insert id connection }

def remove (daemon : Daemon) (id : String) : Daemon :=
  { daemon with connections := daemon.connections.erase id }

/-- The receiver of a task's messages still exists: its entry is in the map or in the hands of a
task that re-keys. -/
def receives (daemon : Daemon) (task : Nat) : Bool :=
  (daemon.connections.entries.any fun entry => entry.2.msgRx = task) ||
    (List.range daemon.spawned).any fun other =>
      match daemon.tasks other with
      | .rekeying _ _ connection => connection.msgRx = task
      | _ => false

def step (daemon : Daemon) (label : Label) : Option Daemon :=
  let task := label.task
  match label.deed, daemon.tasks task with
  | .accept remoteAddr, .absent =>
    if daemon.config.bindAddress ≠ none ∧ task = daemon.spawned then
      some { daemon.become task (.accepted remoteAddr) with spawned := daemon.spawned + 1 }
    else none
  | .insert uuid, .accepted remoteAddr =>
    some ((daemon.insert uuid
      { state := .idle, remoteAddr := some remoteAddr, commandTx := task, msgRx := task }).become
        task (.waiting .server uuid))
  | .client, .absent =>
    match daemon.clients with
    | id :: clients =>
      if task = daemon.spawned then
        some { (daemon.insert id
            { state := .idle, remoteAddr := none, commandTx := task, msgRx := task }).become
              task (.waiting .client id) with
          spawned := daemon.spawned + 1, clients }
      else none
    | [] => none
  | .stateChanged state, .waiting _ id =>
    match daemon.connections.lookup id with
    | some connection => some (daemon.insert id { connection with state })
    | none => some (daemon.become task .ended)
  | .connectionIdDetermined determinedId, .waiting .server id =>
    match daemon.connections.lookup id with
    | some connection =>
      some ((daemon.remove id).become task (.rekeying id determinedId connection))
    | none => some (daemon.become task .ended)
  | .connectionIdDetermined _, .waiting .client _ => some daemon
  | .reinsert, .rekeying _ determinedId connection =>
    some ((daemon.insert determinedId connection).become task (.waiting .server determinedId))
  | .dataReceived _, .waiting _ _ =>
    if daemon.receives task then some daemon else some (daemon.become task .ended)
  | .close, .waiting _ id => some ((daemon.remove id).become task .ended)
  | _, _ => none

end Daemon

end Fmtp.Tokio

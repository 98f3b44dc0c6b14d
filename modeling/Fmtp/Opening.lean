/-
This file proves that a connection opens as the pair starts: the client has tried its addresses up
to the first that answers, the server runs on the accepted socket, and each has its machine wait
for the identification of the other side.
-/

import Fmtp.Dialling
import Fmtp.Simulation

namespace Fmtp.Tokio

open TransitionSystem

/-! ### The pair at its start -/

/-- What the pair starts with. -/
theorem pair_start (mirror : Mirror) (clientId : Option String)
    (clientNow serverNow : Instant) :
    Fmtp.Pair.start mirror clientId clientNow serverNow = some
      { peer := fun
          | .client =>
            { machine :=
                ⟨.idPending ⟨clientNow + (mirror.entry .client).ti⟩,
                  { config := mirror.config .client, server := false,
                    id := some (mirror.key .client), target := .dataReady }⟩
              ctx := ConnectionContext.empty.send
                (.handshake (mirror.entry .client).localId (mirror.entry .client).remoteId)
              given := [] }
          | .server =>
            { machine :=
                ⟨.idPending ⟨serverNow + mirror.serverTi⟩,
                  { config := mirror.config .server, server := true, id := none,
                    target := .idle }⟩
              ctx := .empty
              given := [] }
        wire := fun _ => [] } := by
  have found := mirror.found .client
  have target := mirror.target .client
  refine Option.bind_eq_some_iff.mpr ⟨{
    machine :=
      ⟨.connectionPending,
        { config := mirror.config .client, server := false, id := some (mirror.key .client),
          target := .dataReady }⟩
    ctx := .empty
    given := [] }, ?_, Option.bind_eq_some_iff.mpr
      ⟨_, ?_, Option.map_eq_some_iff.mpr ⟨_, ?_, rfl⟩⟩⟩
  · simp only [Peer.dispatch, Peer.new, Fmtp.Connection.new, Fmtp.Connection.handleWithContext,
      ConnectionState.beforeDispatch, ConnectionState.idle, found, target, Response.apply]
    rfl
  · simp only [Peer.dispatch, Fmtp.Connection.handleWithContext, ConnectionState.beforeDispatch,
      ConnectionState.connectionPending, ConnectionState.entry, found, target, Option.bind_some,
      Response.apply]
    rfl
  · simp only [Peer.dispatch, Peer.new, Fmtp.Connection.new, Fmtp.Connection.handleWithContext,
      ConnectionState.beforeDispatch, ConnectionState.idle, mirror.timed, Response.apply]
    rfl

/-! ### The connection is opened -/

namespace Loop

variable {loop next : Loop} {offer : Offer} {branch : Branch}

/-- Outside the arm of Idle no socket is opened. -/
theorem arm_socket (busy : branch ≠ .machine .idle) :
    (loop.arm offer branch).socket = loop.socket := by
  have dispatched (loop : Loop) (event : Event) : (loop.dispatch event).socket = loop.socket := by
    unfold dispatch
    split <;> rfl
  have left (loop : Loop) : (loop.leave offer).socket = loop.socket := by
    unfold leave
    split
    · rfl
    · dsimp only
      split <;> rfl
  cases branch with
  | transmit packet =>
    show (loop.sendPacket offer packet).socket = loop.socket
    unfold sendPacket
    split
    · rfl
    · split
      · rfl
      · exact dispatched _ _
  | command received =>
    cases received with
    | none => exact left loop
    | some command => exact dispatched _ _
  | receive msg =>
    unfold arm
    dsimp only
    split
    · rfl
    · exact left loop
  | machine turned =>
    cases turned with
    | idle => exact absurd rfl busy
    | failed text => exact left loop
    | slept => rfl
    | raised event => exact dispatched _ _
  | read received =>
    show (loop.readArm offer received).socket = loop.socket
    unfold readArm
    split
    · exact dispatched _ _
    · dsimp only
      split <;> rfl

end Loop

theorem commanded_eq (log : List Action) : commanded log = (raised log).flatMap Event.given := by
  induction log with
  | nil => rfl
  | cons action rest inductionHypothesis =>
    cases action with
    | dispatched entry => exact congrArg (entry.event.given ++ ·) inductionHypothesis
    | connected | wrote | shut | sent => exact inductionHypothesis

/-- Dialling gives nothing to send. -/
theorem attempts_given (key : String) (count : Nat) :
    (attempts key count).flatMap Event.given = [] := by
  refine List.flatMap_eq_nil_iff.mpr fun event member => ?_
  obtain ⟨attempt, listed, among⟩ := List.mem_flatten.mp member
  obtain rfl := (List.mem_replicate.mp listed).2
  rcases List.mem_cons.mp among with rfl | last
  · rfl
  · rw [List.mem_singleton] at last
    subst last
    rfl

theorem commanded_of_plain {actions : List Action} (plain : ∀ action ∈ actions, action.Plain) :
    commanded actions = [] := by
  refine List.flatMap_eq_nil_iff.mpr fun action member => ?_
  have each := plain action member
  cases action with
  | dispatched | connected => exact absurd each not_false
  | wrote | shut | sent => rfl

/-- The arm of Idle gives the user nothing. -/
theorem delivered_kept (given : List FmtpMessage) :
    Loop.Kept fun connection => delivered connection.log = given := by
  refine ⟨?_, ?_, ?_⟩
  · intro before after event same handled
    obtain ⟨entry, _, dispatches⟩ := Connection.dispatch_spec handled
    rw [dispatches.log, delivered_append, same]
    exact List.append_nil _
  · intro connection socket address same
    exact (delivered_append _ _).trans ((List.append_nil _).trans same)
  · intro connection socket same
    exact (delivered_append _ _).trans ((List.append_nil _).trans same)

/-- A client that has connected is the client of the pair. -/
theorem client_connected {mirror : Mirror} {client : Loop} {offer : Offer}
    (move : ((Connection.new (mirror.config .client)
      (some (mirror.key .client))).runClient).iterate offer = some client)
    (linked : client.linked = true) : ∃ now, client.peer =
      { machine :=
          ⟨.idPending ⟨now + (mirror.entry .client).ti⟩,
            { config := mirror.config .client, server := false,
              id := some (mirror.key .client), target := .dataReady }⟩
        ctx := ConnectionContext.empty.send
          (.handshake (mirror.entry .client).localId (mirror.entry .client).remoteId)
        given := [] } := by
  generalize start : (Connection.new (mirror.config .client)
    (some (mirror.key .client))).runClient = loop at move
  have absent : loop.socket = none := by rw [← start]; rfl
  have idle : loop.pop.connection.inner.state = .idle := by rw [← start]; rfl
  have known : loop.pop.connection.inner.storage.id = some (mirror.key .client) := by
    rw [← start]
    rfl
  have config : loop.connection.inner.storage.config = mirror.config .client := by
    rw [← start]
    rfl
  have unqueued : loop.pop.connection.ctx = .empty := by rw [← start]; rfl
  have fresh : loop.connection.log = [] := by rw [← start]; rfl
  have begun : Begun [] loop := ⟨_, rfl, Or.inl start.symm⟩
  obtain ⟨_, branch, selected, reports⟩ := loop.iterate_spec offer move
  have socket := loop.iterate_socket offer selected move
  have chosen := Loop.select_chosen selected
  have arm : branch = .machine .idle := by
    by_contra busy
    rw [Loop.arm_socket busy] at socket
    have none : client.socket = none := socket.trans absent
    rw [(Loop.linked_iff.mp linked).2.1] at none
    cases none
  subst arm
  have unset : loop.pop.socket = none := absent
  have holds : Holds [] [] (loop.pop.arm offer (.machine .idle)).connection := by
    have popped : Holds [] [] loop.pop.connection := by
      have inHand := begun.conserved.pop
      rw [chosen.2.2.1] at inHand
      exact inHand
    exact (Holds.kept [] []).idleArm popped
  have quiet : delivered (loop.pop.arm offer (.machine .idle)).connection.log = [] := by
    refine (delivered_kept []).idleArm ?_
    show delivered loop.connection.log = []
    rw [fresh]
    rfl
  have entry := mirror.found .client
  obtain ⟨actions, stays, plain⟩ := reports
  rcases connect_spec loop.pop.connection idle (mirror.key .client) offer.dial loop.pop.sockets with
    ⟨config', before, address, rest, now, next, dialled, found, _, _, _, connected, answered⟩ |
      ⟨_, next, _, _, _, connected, _, _⟩
  · have arm : loop.pop.arm offer (.machine .idle) =
        { loop.pop with
          connection := next
          socket := some loop.pop.sockets
          sockets := loop.pop.sockets + 1 } := by
      show loop.pop.idleArm offer = _
      unfold Loop.idleArm
      simp only [known, unset, Loop.reconnect, connected]
    have same : loop.pop.connection.inner.storage.config = mirror.config .client := config
    rw [same, entry] at found
    obtain rfl := Option.some.inj found
    rw [arm] at stays holds quiet
    have queue : client.connection.ctx = ConnectionContext.empty.send
        (.handshake (mirror.entry .client).localId (mirror.entry .client).remoteId) := by
      rw [stays.ctx, answered.ctx, unqueued]
    have pushes : pushed client.connection.log = [] := by
      have kept := holds.reports ⟨actions, stays, plain⟩
      unfold Holds at kept
      have none : delivered actions = [] :=
        List.flatMap_eq_nil_iff.mpr fun action member => (plain action member).delivered
      rw [queue] at kept
      rw [stays.log, delivered_append, quiet, none, ← stays.log] at kept
      exact kept.symm
    have commands : commanded client.connection.log = [] := by
      rw [stays.log, answered.log, commanded_append, commanded_append, commanded_of_plain plain,
        commanded_eq dialled, answered.raised, List.flatMap_append, attempts_given]
      show commanded loop.connection.log ++ _ ++ [] = []
      rw [fresh]
      rfl
    have stored := loop.iterate_config offer move
    obtain ⟨pending, role, id, target⟩ := answered.greeting
    rw [mirror.target .client] at target
    refine ⟨now, ?_⟩
    show Peer.mk client.connection.inner ⟨client.connection.ctx.sendQueue, _⟩ _ = _
    rw [pushes, commands, queue]
    have inner : client.connection.inner = next.inner := stays.inner
    rw [inner, config] at stored
    rw [inner]
    generalize next.inner = machine at *
    obtain ⟨state, stored'⟩ := machine
    obtain ⟨config', server', target', id'⟩ := stored'
    simp only at pending role id target stored
    subst pending role id target stored
    rfl
  · have gone : (loop.pop.arm offer (.machine .idle)).socket = none := by
      show (loop.pop.idleArm offer).socket = none
      unfold Loop.idleArm
      simp only [known, unset, Loop.reconnect, connected]
      split <;> rfl
    rw [gone, (Loop.linked_iff.mp linked).2.1] at socket
    cases socket

/-- The server on the accepted socket is the server of the pair. -/
theorem server_accepted (mirror : Mirror) (now : Instant) :
    ((Connection.new (mirror.config .server) none).runServer now).peer =
        { machine :=
            ⟨.idPending ⟨now + mirror.serverTi⟩,
              { config := mirror.config .server, server := true, id := none, target := .idle }⟩
          ctx := .empty
          given := [] } ∧
      ((Connection.new (mirror.config .server) none).runServer now).linked = true := by
  obtain ⟨connection, handled⟩ : ∃ next, (Loop.start (Connection.new (mirror.config .server) none)
      (some 0) 1).connection.dispatch (.rSetup now) = .ok next := Connection.dispatch_ok _ nofun
  obtain ⟨entry, raised, dispatches⟩ := Connection.dispatch_spec handled
  have server : (Connection.new (mirror.config .server) none).runServer now =
      { Loop.start (Connection.new (mirror.config .server) none) (some 0) 1 with connection } := by
    unfold Connection.runServer Loop.dispatch
    rw [handled]
  have dispatched :
      (Loop.start (Connection.new (mirror.config .server) none) (some 0) 1).peer.dispatch
        (.rSetup now) =
        some ((Connection.new (mirror.config .server) none).runServer now).peer := by
    refine Loop.peer_dispatch raised ?_
    rw [server]
    exact dispatches
  have computed :
      (Loop.start (Connection.new (mirror.config .server) none) (some 0) 1).peer.dispatch
        (.rSetup now) = some
        { machine :=
            ⟨.idPending ⟨now + mirror.serverTi⟩,
              { config := mirror.config .server, server := true, id := none, target := .idle }⟩
          ctx := .empty
          given := [] } := by
    simp only [Loop.peer, Loop.start, Connection.new, Fmtp.Connection.new, Peer.dispatch,
      Fmtp.Connection.handleWithContext, ConnectionState.beforeDispatch, ConnectionState.idle,
      mirror.timed, Response.apply]
    rfl
  refine ⟨Option.some.inj (dispatched.symm.trans computed), ?_⟩
  rw [server, Loop.linked_iff]
  refine ⟨rfl, rfl, ?_⟩
  show .shut 0 ∉ connection.log
  rw [dispatches.log]
  simp [Loop.start]

/-- A connection that has opened starts as the pair does. -/
theorem Follows.start {mirror : Mirror} {offer : Offer} {serverNow : Instant} {first : Network}
    (started : Network.start mirror offer serverNow = some first) :
    ∃ clientNow pair,
      Fmtp.Pair.start mirror (some (mirror.key .client)) clientNow serverNow = some pair ∧
      Follows first pair := by
  unfold Network.start at started
  split at started
  · cases started
  · rename_i client move
    split at started
    · rename_i linked
      obtain rfl := Option.some.inj started
      obtain ⟨clientNow, connected⟩ := client_connected move linked
      obtain ⟨accepted, running⟩ := server_accepted mirror serverNow
      refine ⟨clientNow, _, pair_start mirror _ clientNow serverNow, ?_, ?_, fun _ _ => rfl, ?_⟩
      · rintro (client | server) _
        · exact connected.symm
        · exact accepted.symm
      · rintro (client | server) gone _
        · rw [linked] at gone
          cases gone
        · rw [running] at gone
          cases gone
      · rintro (client | server)
        · exact List.nil_prefix
        · exact List.nil_prefix
    · cases started

end Fmtp.Tokio

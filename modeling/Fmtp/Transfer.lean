/-
This file joins two HTTP nodes by a TCP connection between a connection task of each. Whatever else
the nodes do, the two loops and the bytes between them do what a network does. So the results about
a network carry over to what is posted at the one node and stored at the other: the messages in the
channel of an entry are, in order and at most once each, those that the handlers of the other node
have accepted for the connection.
-/

import Fmtp.EndToEnd
import Fmtp.Mailbox

open TransitionSystem

/-! ### What a loop makes of its commands -/

namespace Fmtp.Tokio

/-- The messages of some commands. -/
def messagesOf (commands : List UserCommand) : List FmtpMessage :=
  commands.filterMap fun
    | .data msg => some msg
    | .setup _ | .disconnect | .shutdown | .startup => none

theorem given_commandEvent (now : Instant) (command : UserCommand) :
    (commandEvent now command).given = messagesOf [command] := by
  cases command <;> rfl

namespace Connection

variable {before after : Connection} {event : Event}

theorem commanded_dispatches {entry : Dispatched} (dispatches : Dispatches before after entry) :
    commanded after.log = commanded before.log ++ entry.event.given := by
  rw [dispatches.log, commanded_append]
  exact congrArg _ (List.append_nil _)

theorem commanded_reports (reports : Reports before after) :
    commanded after.log = commanded before.log := by
  obtain ⟨actions, stays, plain⟩ := reports
  rw [stays.log, commanded_append, commanded_of_plain plain, List.append_nil]

theorem commanded_dispatch (handled : before.dispatch event = .ok after)
    (silent : event.given = []) : commanded after.log = commanded before.log := by
  obtain ⟨entry, rfl, dispatches⟩ := dispatch_spec handled
  rw [commanded_dispatches dispatches, silent, List.append_nil]

theorem commanded_once {raises : Event → Prop} (once : Once raises before after)
    (silent : ∀ event, raises event → event.given = []) :
    commanded after.log = commanded before.log := by
  obtain ⟨middle, reports, rfl | ⟨entry, raised, dispatches⟩⟩ := once
  · exact commanded_reports reports
  · rw [commanded_dispatches dispatches, silent _ raised, List.append_nil,
      commanded_reports reports]

/-- Dialling takes no command. -/
theorem commanded_dialAll {key : String} {dial : Nat → Option Instant} {socket count : Nat}
    {addresses : List SocketAddr} {answer : Outcome (SocketAddr × Nat)}
    (dialled : before.dialAll key dial socket addresses count = .ok (after, answer)) :
    commanded after.log = commanded before.log := by
  induction addresses generalizing before count with
  | nil =>
    obtain ⟨rfl, _⟩ := Prod.mk.inj (Except.ok.inj dialled)
    rfl
  | cons address rest inductionHypothesis =>
    unfold dialAll at dialled
    split at dialled
    · cases dialled
    · rename_i ready setUp
      have prepared := commanded_dispatch setUp rfl
      split at dialled
      · split at dialled
        · cases dialled
        · rename_i idle refused
          rw [inductionHypothesis dialled, commanded_dispatch refused rfl, prepared]
      · split at dialled
        · cases dialled
        · rename_i opened answered
          obtain ⟨rfl, _⟩ := Prod.mk.inj (Except.ok.inj dialled)
          rw [commanded_dispatch answered rfl, ← prepared]
          exact (commanded_append _ _).trans (List.append_nil _)

theorem commanded_connect {key : String} {dial : Nat → Option Instant} {socket : Nat}
    {answer : Outcome (SocketAddr × Nat)}
    (dialled : before.connect key dial socket = .ok (after, answer)) :
    commanded after.log = commanded before.log := by
  unfold connect at dialled
  split at dialled
  · obtain ⟨rfl, _⟩ := Prod.mk.inj (Except.ok.inj dialled)
    rfl
  · exact commanded_dialAll dialled

end Connection

namespace Loop

variable {loop next : Loop} {offer : Offer}

theorem commanded_reconnect {id : String} {otherwise : Loop → Loop}
    (same : ∀ loop : Loop, commanded (otherwise loop).connection.log =
      commanded loop.connection.log) :
    commanded (loop.reconnect offer id otherwise).connection.log =
      commanded loop.connection.log := by
  unfold reconnect
  split
  · rfl
  · rename_i dialled
    exact Connection.commanded_connect dialled
  · rename_i dialled
    exact (same _).trans (Connection.commanded_connect dialled)

theorem commanded_idleArm :
    commanded (loop.idleArm offer).connection.log = commanded loop.connection.log := by
  have leaves (loop : Loop) : commanded (loop.leave offer).connection.log =
      commanded loop.connection.log := Connection.commanded_reports (loop.leave_reports offer)
  have shut (socket : Nat) : commanded (loop.record (.shut socket)).connection.log =
      commanded loop.connection.log := (commanded_append _ _).trans (List.append_nil _)
  unfold idleArm
  split
  · exact leaves loop
  · split
    · refine commanded_reconnect fun loop => ?_
      split
      · rfl
      · exact leaves loop
    · dsimp only
      split
      · split
        · exact shut _
        · exact (commanded_reconnect fun _ => rfl).trans (shut _)
      · exact leaves loop

/-- An iteration takes the messages of the commands that it receives, or panics. -/
theorem iterate_commanded (move : loop.iterate offer = some next) :
    ∃ given, commanded next.connection.log = commanded loop.connection.log ++ given ∧
      (given = messagesOf (Http.Link.received loop offer) ∨ given = [] ∧ next.result ≠ none) := by
  obtain ⟨_, branch, selected, reports⟩ := loop.iterate_spec offer move
  have after := Connection.commanded_reports reports
  -- An arm that takes nothing.
  have quiet (other : ∀ command, branch ≠ .command (some command))
      (arm : commanded (loop.pop.arm offer branch).connection.log =
        commanded loop.pop.connection.log) :
      ∃ given, commanded next.connection.log = commanded loop.connection.log ++ given ∧
        (given = messagesOf (Http.Link.received loop offer) ∨ given = [] ∧ next.result ≠ none) := by
    refine ⟨[], ?_, Or.inl ?_⟩
    · rw [after, arm, List.append_nil]
      rfl
    · unfold Http.Link.received
      rw [selected]
      cases branch with
      | command received =>
        cases received with
        | none => rfl
        | some command => exact absurd rfl (other command)
      | transmit | receive | machine | read => rfl
  -- An arm that makes at most one dispatch, of an event without data.
  have once (other : ∀ msg, branch ≠ .receive msg) (busy : branch ≠ .machine .idle)
      (silent : ∀ event, branch.Raises offer.clock event → event.given = []) :
      commanded (loop.pop.arm offer branch).connection.log =
        commanded loop.pop.connection.log :=
    Connection.commanded_once (loop.pop.arm_once offer other busy) silent
  cases branch with
  | transmit packet =>
    refine quiet (fun _ same => by cases same) (once (fun _ same => by cases same)
      (fun same => by cases same) ?_)
    rintro _ rfl
    rfl
  | command received =>
    cases received with
    | none =>
      refine quiet (fun _ same => by cases same) ?_
      exact Connection.commanded_reports (loop.pop.leave_reports offer)
    | some command =>
      have received : Http.Link.received loop offer = [command] := by
        unfold Http.Link.received
        rw [selected]
        rfl
      rw [received]
      have arm : loop.pop.arm offer (.command (some command)) =
          loop.pop.dispatch (commandEvent offer.clock command) := rfl
      cases handled : loop.pop.connection.dispatch (commandEvent offer.clock command) with
      | ok connection =>
        obtain ⟨entry, raised, dispatches⟩ := Connection.dispatch_spec handled
        refine ⟨_, ?_, Or.inl rfl⟩
        rw [after, arm, dispatch, handled, ← given_commandEvent offer.clock, ← raised]
        show commanded connection.log = commanded loop.pop.connection.log ++ _
        exact Connection.commanded_dispatches dispatches
      | error fault =>
        have failed : loop.pop.arm offer (.command (some command)) = loop.pop.fail fault := by
          rw [arm, dispatch, handled]
        refine ⟨[], ?_, Or.inr ⟨rfl, ?_⟩⟩
        · rw [after, failed, List.append_nil]
          rfl
        · unfold iterate at move
          split at move
          · cases move
          · rw [selected, Option.map_some, failed] at move
            obtain rfl := Option.some.inj move
            exact Option.some_ne_none _
  | receive msg =>
    refine quiet (fun _ same => by cases same) ?_
    unfold arm
    dsimp only
    split
    · exact (commanded_append _ _).trans (List.append_nil _)
    · exact Connection.commanded_reports (loop.pop.leave_reports offer)
  | machine turned =>
    by_cases idle : turned = .idle
    · subst idle
      exact quiet (fun _ same => by cases same) commanded_idleArm
    · refine quiet (fun _ same => by cases same) (once (fun _ same => by cases same) ?_ ?_)
      · intro same
        injection same with same
        exact idle same
      · rintro event rfl
        cases turn_spec (select_chosen selected).2.2.2 <;> rfl
  | read received =>
    refine quiet (fun _ same => by cases same) (once (fun _ same => by cases same)
      (fun same => by cases same) fun event remote => ?_)
    cases event with
    | lData => cases remote
    | _ => rfl

/-- A run takes the messages of the commands that it receives, all but that of a panic. -/
theorem run_commanded {last : Loop} {offers : List Offer}
    (run : Run Loop.iterate loop offers last) :
    ∃ given, commanded last.connection.log = commanded loop.connection.log ++ given ∧
      given <+: messagesOf (Http.consumed loop offers) ∧
      (last.result = none → given = messagesOf (Http.consumed loop offers)) := by
  induction run with
  | nil loop => exact ⟨[], (List.append_nil _).symm, List.nil_prefix, fun _ => rfl⟩
  | @cons loop next last offer offers move tail inductionHypothesis =>
    obtain ⟨given, took, all⟩ := iterate_commanded move
    obtain ⟨later, takes, among, whole⟩ := inductionHypothesis
    have split : messagesOf (Http.consumed loop (offer :: offers)) =
        messagesOf (Http.Link.received loop offer) ++ messagesOf (Http.consumed next offers) := by
      rw [Http.consumed, move]
      exact List.filterMap_append
    refine ⟨given ++ later, by rw [takes, took, List.append_assoc], ?_⟩
    rw [split]
    rcases all with rfl | ⟨rfl, ended⟩
    · refine ⟨(List.prefix_append_right_inj _).mpr among, fun running => ?_⟩
      rw [whole running]
    · cases tail with
      | nil =>
        have none_later : later = [] :=
          List.append_cancel_left (takes.symm.trans (List.append_nil _).symm)
        rw [none_later]
        exact ⟨List.nil_prefix, fun running => absurd running ended⟩
      | cons move' => exact absurd (iterate_spec _ _ move').1 ended

end Loop

end Fmtp.Tokio

/-! ### Two nodes -/

namespace Fmtp.Http

open Tokio

namespace Node

/-- The loop behind a task; before there is one, the loop that would start. -/
def loop (node : Node) (task : Nat) : Loop :=
  match node.links task with
  | some link => link.loop
  | none => (Tokio.Connection.new node.daemon.config none).runClient

/-- What the loop behind a task is offered. -/
def offered (node : Node) (task : Nat) (offer : Offer) : Offer :=
  match node.links task with
  | some link => link.offer (node.closed task) (node.listens task) offer
  | none => offer

end Node

/-- Two nodes, the task of each that has the TCP connection between them, and its two streams. -/
structure Joint where
  node : Side → Node
  task : Side → Nat
  stream : Side → List Byte

namespace Joint

structure Label where
  side : Side
  label : Http.Label

/-- The two loops and their streams. -/
def network (joint : Joint) : Network where
  loop side := (joint.node side).loop (joint.task side)
  stream := joint.stream

/-- What a step does on the connection. -/
def deed (joint : Joint) (label : Label) : Option Network.Label :=
  match label.label with
  | .iterate task offer =>
    if task = joint.task label.side then
      some ⟨label.side, (joint.node label.side).offered task offer⟩
    else none
  | .accept _ _ _ | .insert _ _ | .client _ | .send _ _ | .take _ | .handle _ | .reinsert _
  | .call _ _ | .acquire _ | .complete _ | .drop _ | .abort _ | .cancel _ | .cancelAccept => none

/-- One step of a node. Where it is an iteration on the connection, TCP answers it. -/
def step (joint : Joint) (label : Label) : Option Joint :=
  let moved (stream : Side → List Byte) : Option Joint :=
    ((joint.node label.side).step label.label).map fun next =>
      { joint with node := Function.update joint.node label.side next, stream }
  match joint.deed label with
  | none => moved joint.stream
  | some deed => (joint.network.step deed).bind fun network => moved network.stream

/-- Insertions into the registries find their keys unused. -/
def Orderly (joint : Joint) (label : Label) : Prop :=
  (joint.node label.side).Orderly label.label

instance (joint : Joint) (label : Label) : Decidable (joint.Orderly label) :=
  inferInstanceAs (Decidable ((joint.node label.side).Orderly label.label))

/-- On the connection, every write is whole, every read gives one packet, and the commands come in
states that admit them. -/
def Regular (joint : Joint) (label : Label) : Prop :=
  ∀ deed ∈ joint.deed label, joint.network.orderly deed = true

instance (joint : Joint) (label : Label) : Decidable (joint.Regular label) :=
  inferInstanceAs (Decidable (∀ deed ∈ joint.deed label, joint.network.orderly deed = true))

/-- No packet that is read is one that the state of its reader refuses. -/
def Clear (joint : Joint) (label : Label) : Prop :=
  ∀ deed ∈ joint.deed label, ¬ joint.network.Collides deed

instance (joint : Joint) (label : Label) : Decidable (joint.Clear label) :=
  inferInstanceAs (Decidable (∀ deed ∈ joint.deed label, ¬ joint.network.Collides deed))

/-- No message that a side has received is overtaken. -/
def Unovertaken (side : Side) (joint : Joint) (label : Label) : Prop :=
  ∀ deed ∈ joint.deed label, deed.side = side → ¬ Overtaken (joint.network.loop side) deed.offer

instance (side : Side) (joint : Joint) (label : Label) :
    Decidable (joint.Unovertaken side label) :=
  inferInstanceAs (Decidable (∀ deed ∈ joint.deed label,
    deed.side = side → ¬ Overtaken (joint.network.loop side) deed.offer))

end Joint

/-! ### The network between the nodes -/

namespace Node

variable {config : Config} {node next : Node} {label : Label} {task : Nat} {link : Link}

theorem loop_of_linked (linked : node.links task = some link) : node.loop task = link.loop := by
  rw [loop, linked]

/-- Only an iteration changes the loop of a connection. -/
theorem Tracked.loop_kept (tracked : node.Tracked config) (moves : node.Moves label next)
    (linked : node.links task = some link) (other : ∀ offer, label ≠ .iterate task offer) :
    ∃ after, next.links task = some after ∧ after.loop = link.loop := by
  -- A link that changes, and its loop does not.
  have own {task' : Nat} {before after : Link} (linked' : node.links task' = some before)
      (same : task' = task → after.loop = before.loop) :
      ∃ after', (node.setLink task' after).links task = some after' ∧
        after'.loop = link.loop := by
    by_cases equal : task = task'
    · subst equal
      obtain rfl := Option.some.inj (linked.symm.trans linked')
      exact ⟨after, node.setLink_self task after, same rfl⟩
    · exact ⟨link, (node.setLink_other after equal).trans linked, rfl⟩
  have new {task' : Nat} {after : Link} (unlinked : node.links task' = none) :
      ∃ after', (node.setLink task' after).links task = some after' ∧
        after'.loop = link.loop := by
    have distinct : task ≠ task' := by
      rintro rfl
      cases unlinked.symm.trans linked
    exact ⟨link, (node.setLink_other after distinct).trans linked, rfl⟩
  cases moves with
  | accepted _ move => exact new (tracked.unlinked_accept move)
  | started _ _ move => exact new (tracked.unlinked_client move)
  | inserted | reinserted | called | answered | acquired | refused | dropped | abandoned | aborted
  | unbound => exact ⟨link, linked, rfl⟩
  | @iterated _ offer _ _ linked' =>
    exact own linked' fun same => absurd rfl (same ▸ other offer)
  | broken linked' alive unsent deaf =>
    exact absurd ((tracked.gone deaf linked').over alive).2 unsent
  | sent linked' | took _ linked' | hungUp _ linked' | handled _ linked' | posted _ linked'
  | cancelled _ linked' =>
    exact own linked' fun _ => rfl

end Node

namespace Joint

variable {joint next : Joint} {label : Label}

/-- Both nodes keep track and keep their messages, and each has the connection. -/
structure Tracked (joint : Joint) : Prop where
  nodes : ∀ side, ∃ config, (joint.node side).Tracked config
  keeps : ∀ side, (joint.node side).Keeps
  linked : ∀ side, ∃ link, (joint.node side).links (joint.task side) = some link

/-- A step is one of a node, and one of the network where the node has iterated on the
connection. -/
theorem step_cases (move : joint.step label = some next) :
    ∃ node stream, (joint.node label.side).step label.label = some node ∧
      next = { joint with node := Function.update joint.node label.side node, stream } ∧
      (joint.deed label = none ∧ stream = joint.stream ∨
        ∃ deed network, joint.deed label = some deed ∧ joint.network.step deed = some network ∧
          stream = network.stream) := by
  unfold step at move
  dsimp only at move
  split at move
  · rename_i none
    obtain ⟨node, stepped, rfl⟩ := Option.map_eq_some_iff.mp move
    exact ⟨node, _, stepped, rfl, Or.inl ⟨none, rfl⟩⟩
  · rename_i deed some
    obtain ⟨network, moved, move⟩ := Option.bind_eq_some_iff.mp move
    obtain ⟨node, stepped, rfl⟩ := Option.map_eq_some_iff.mp move
    exact ⟨node, _, stepped, rfl, Or.inr ⟨deed, network, some, moved, rfl⟩⟩

theorem deed_spec {side : Side} {label : Http.Label} {deed : Network.Label}
    (done : joint.deed ⟨side, label⟩ = some deed) :
    ∃ offer, label = .iterate (joint.task side) offer ∧
      deed = ⟨side, (joint.node side).offered (joint.task side) offer⟩ := by
  unfold Joint.deed at done
  dsimp only at done
  split at done
  · rename_i task offer
    split at done
    · rename_i own
      subst own
      exact ⟨offer, rfl, (Option.some.inj done).symm⟩
    · cases done
  all_goals cases done

/-- A node that has stepped, in the network. -/
theorem network_update {side : Side} {node : Node} {stream : Side → List Byte} {loop : Loop}
    (behind : node.loop (joint.task side) = loop) :
    network { joint with node := Function.update joint.node side node, stream } =
      { loop := Function.update joint.network.loop side loop, stream } := by
  have loops : (fun other => (Function.update joint.node side node other).loop (joint.task other)) =
      Function.update joint.network.loop side loop := by
    funext other
    by_cases same : other = side
    · subst same
      rw [Function.update_self, Function.update_self, behind]
    · rw [Function.update_of_ne same, Function.update_of_ne same]
      rfl
  exact congrArg (fun loop => Network.mk loop stream) loops

/-- Every orderly step is a step of the network, or none of it. -/
theorem Tracked.projects (tracked : joint.Tracked) (orderly : joint.Orderly label)
    (move : joint.step label = some next) :
    next.Tracked ∧
      (joint.deed label = none ∧ next.network = joint.network ∨
        ∃ deed, joint.deed label = some deed ∧ deed.offer.Listens ∧
          joint.network.step deed = some next.network) := by
  obtain ⟨side, label⟩ := label
  obtain ⟨node, stream, stepped, rfl, deeds⟩ := step_cases move
  obtain ⟨config, nodeTracked⟩ := tracked.nodes side
  obtain ⟨link, linked⟩ := tracked.linked side
  have moves := Node.step_moves stepped
  have stays {after : Link} (present : node.links (joint.task side) = some after) :
      Tracked { joint with node := Function.update joint.node side node, stream } := by
    have each (holds : Side → Node → Prop) (own : holds side node)
        (others : ∀ other, holds other (joint.node other)) (other : Side) :
        holds other (Function.update joint.node side node other) := by
      by_cases same : other = side
      · subst same
        rw [Function.update_self]
        exact own
      · rw [Function.update_of_ne same]
        exact others other
    exact ⟨each (fun _ node => ∃ config, node.Tracked config)
        ⟨config, nodeTracked.step orderly moves⟩ tracked.nodes,
      each (fun _ node => node.Keeps) (nodeTracked.keeps moves (tracked.keeps side)).1
        tracked.keeps,
      each (fun other node => ∃ link, node.links (joint.task other) = some link)
        ⟨after, present⟩ tracked.linked⟩
  rcases deeds with ⟨none_done, rfl⟩ | ⟨deed, network, done, moved, rfl⟩
  · have other : ∀ offer, label ≠ .iterate (joint.task side) offer := by
      rintro offer rfl
      unfold deed at none_done
      dsimp only at none_done
      rw [if_pos rfl] at none_done
      cases none_done
    obtain ⟨after, present, same⟩ := nodeTracked.loop_kept moves linked other
    refine ⟨stays present, Or.inl ⟨none_done, ?_⟩⟩
    have behind : node.loop (joint.task side) = joint.network.loop side := by
      rw [Node.loop_of_linked present, same]
      exact (Node.loop_of_linked linked).symm
    rw [network_update behind, Function.update_eq_self]
    rfl
  · obtain ⟨offer, rfl, rfl⟩ := deed_spec done
    obtain ⟨loop, running, answers, iterated, rfl⟩ := Network.step_cases moved
    cases moves with
    | @iterated _ _ link' loop' linked' alive sent move' =>
      obtain rfl := Option.some.inj (linked.symm.trans linked')
      have listens : (joint.node side).listens (joint.task side) = true := by
        refine decide_eq_true fun deaf => ?_
        have ended := ((nodeTracked.gone deaf linked).over alive).1
        rw [← Node.loop_of_linked linked] at ended
        exact ended (Loop.linked_iff.mp running).1
      have offered : (joint.node side).offered (joint.task side) offer =
          link.offer ((joint.node side).closed (joint.task side)) true offer := by
        rw [Node.offered, linked, listens]
      have same : loop' = loop := by
        rw [listens, ← offered] at move'
        have iterated : link.loop.iterate ((joint.node side).offered (joint.task side) offer) =
            some loop := by
          rw [← Node.loop_of_linked linked]
          exact iterated
        exact Option.some.inj (move'.symm.trans iterated)
      subst same
      have present := (joint.node side).setLink_self (joint.task side)
      refine ⟨stays (present _), Or.inr ⟨_, done, ?_, ?_⟩⟩
      · show Offer.Listens (Node.offered _ _ _)
        rw [offered]
        exact fun _ => rfl
      · rw [moved, network_update (Node.loop_of_linked (present _))]
        rfl

/-- Two nodes with some history, at the start of the connection between two of their tasks. -/
structure Joined (mirror : Mirror) (offer : Offer) (serverNow : Instant) (joint : Joint) :
    Prop where
  histories : ∀ side, ∃ config first labels, Node.start config = .ok first ∧
    Run Node.step first labels (joint.node side) ∧ EachStep Node.step Node.Orderly first labels
  linked : ∀ side, ∃ link, (joint.node side).links (joint.task side) = some link
  opened : Network.start mirror offer serverNow = some joint.network

theorem Joined.tracked {mirror : Mirror} {offer : Offer} {serverNow : Instant}
    (joined : joint.Joined mirror offer serverNow) : joint.Tracked := by
  refine ⟨fun side => ?_, fun side => ?_, joined.linked⟩
  all_goals obtain ⟨config, first, labels, started, run, orderly⟩ := joined.histories side
  · exact ⟨config, (Node.Tracked.run started run orderly).1⟩
  · exact (Node.Keeps.run started run orderly).1

end Joint

/-- A new loop has taken no command. -/
theorem Starts.uncommanded {config : Config} {role : Role} {id : String} {first : Loop}
    (starts : Starts config role id first) : commanded first.connection.log = [] := by
  cases role with
  | client =>
    obtain rfl : first = _ := starts
    rfl
  | server =>
    obtain ⟨now, rfl⟩ := starts
    unfold Tokio.Connection.runServer Loop.dispatch
    split
    · rename_i handled
      exact Connection.commanded_dispatch handled rfl
    · rfl

/-- What a connection has taken is among what the handlers have sent to it, and all of it while it
runs and none of it waits. -/
theorem Node.Tracked.took {config : Config} {node : Node} {task : Nat} {link : Link}
    (tracked : node.Tracked config) (linked : node.links task = some link) :
    commanded link.loop.connection.log <+: messagesOf link.accepted ∧
      (link.loop.result = none → link.commands = [] →
        commanded link.loop.connection.log = messagesOf link.accepted) := by
  obtain ⟨_, _, first, starts, traced⟩ := tracked.traced linked
  obtain ⟨given, took, among, whole⟩ := Loop.run_commanded traced.run
  rw [starts.uncommanded, List.nil_append] at took
  rw [took, traced.accepted]
  refine ⟨among.trans ⟨messagesOf link.commands, List.filterMap_append.symm⟩, ?_⟩
  intro running idle
  rw [idle, List.append_nil]
  exact whole running

section Runs

variable {mirror : Mirror} {offer : Offer} {serverNow : Instant} {joint last : Joint}
  {labels : List Joint.Label}

/-- Two nodes do with their connection what a network does. -/
theorem Joint.Joined.projects (joined : joint.Joined mirror offer serverNow)
    (run : Run Joint.step joint labels last)
    (orderly : EachStep Joint.step Joint.Orderly joint labels) :
    last.Tracked ∧ ∃ deeds, Run Network.step joint.network deeds last.network ∧
      ∀ guard : Network → Network.Label → Prop,
        EachStep Joint.step (fun joint label => ∀ deed ∈ joint.deed label,
          deed.offer.Listens → guard joint.network deed) joint labels →
        EachStep Network.step guard joint.network deeds := by
  let known (_ : Network) (deed : Network.Label) : Prop := deed.offer.Listens
  have matched : ∀ (joint : Joint) label next, joint.Tracked → joint.Orderly label →
      joint.step label = some next → next.Tracked ∧
        (joint.deed label = none ∧ next.network = joint.network ∨
          ∃ deed, joint.deed label = some deed ∧ known joint.network deed ∧
            joint.network.step deed = some next.network) :=
    fun _ _ _ tracked orderly move => tracked.projects orderly move
  exact Run.projects matched run joined.tracked orderly

end Runs

/-! ### The nodes of the tests -/

namespace Sample

open Tokio.Sample

/-- The client's node has connected to the server's. -/
def joint : Joint where
  node
    | .client => (final Node.step caller [.client 0, .iterate 0 answering]).getD caller
    | .server => (final Node.step node [.accept 0 Daemon.Sample.address 0, .insert 0 "a"]).getD node
  task _ := 0
  stream _ := []

theorem joint_joined : joint.Joined Fmtp.Sample.mirror answering 0 := by
  refine ⟨?_, ?_, ?_⟩
  · rintro (client | server)
    · exact ⟨_, caller, [.client 0, .iterate 0 answering], caller_started,
        Run.of_enabled _ _ _ (by decide +kernel), by decide +kernel⟩
    · exact ⟨_, node, [.accept 0 Daemon.Sample.address 0, .insert 0 "a"], node_started,
        Run.of_enabled _ _ _ (by decide +kernel), by decide +kernel⟩
  · have linked : ∀ side, ((joint.node side).links (joint.task side)).isSome = true := by
      rintro (client | server) <;> decide +kernel
    exact fun side => Option.isSome_iff_exists.mp (linked side)
  · have connected : ((Tokio.Connection.new (Fmtp.Sample.mirror.config .client)
        (some (Fmtp.Sample.mirror.key .client))).runClient).iterate answering =
        some (joint.network.loop .client) := by rfl
    have running : (joint.network.loop .client).linked = true := by decide +kernel
    unfold Network.start
    rw [connected]
    dsimp only
    rw [if_pos running]
    refine congrArg some (congrArg (fun loop => Network.mk loop _) ?_)
    funext side
    cases side <;> rfl

/-- Both ends identify themselves and associate, and a byte is posted at the client's node and
stored at the server's. -/
def transfer : List Joint.Label :=
  [⟨.client, .send 0 quiet⟩, ⟨.client, .send 0 quiet⟩, ⟨.client, .iterate 0 writable⟩,
    ⟨.server, .iterate 0 (incoming greetingChunk)⟩, ⟨.server, .send 0 quiet⟩,
    ⟨.server, .send 0 quiet⟩, ⟨.server, .iterate 0 writable⟩,
    ⟨.client, .iterate 0 (incoming handshakeChunk)⟩, ⟨.client, .send 0 quiet⟩,
    ⟨.client, .iterate 0 writable⟩, ⟨.client, .iterate 0 quiet⟩, ⟨.client, .send 0 quiet⟩,
    ⟨.client, .iterate 0 writable⟩, ⟨.server, .iterate 0 (incoming acceptChunk)⟩,
    ⟨.server, .send 0 quiet⟩, ⟨.server, .iterate 0 quiet⟩, ⟨.server, .send 0 quiet⟩,
    ⟨.server, .iterate 0 writable⟩, ⟨.server, .iterate 0 (incoming startupChunk)⟩,
    ⟨.server, .send 0 quiet⟩, ⟨.server, .iterate 0 writable⟩,
    ⟨.client, .iterate 0 (incoming startupChunk)⟩, ⟨.client, .send 0 quiet⟩,
    ⟨.client, .iterate 0 writable⟩, ⟨.client, .iterate 0 (incoming startupChunk)⟩,
    ⟨.server, .iterate 0 (incoming startupChunk)⟩, ⟨.client, .call 0 (connData "test" [7])⟩,
    ⟨.client, .acquire 0⟩, ⟨.client, .complete 0⟩, ⟨.client, .iterate 0 quiet⟩,
    ⟨.client, .iterate 0 writable⟩, ⟨.server, .iterate 0 (incoming dataChunk)⟩,
    ⟨.server, .iterate 0 quiet⟩, ⟨.server, .send 0 quiet⟩, ⟨.server, .take 0⟩,
    ⟨.server, .handle 0⟩, ⟨.server, .reinsert 0⟩, ⟨.server, .take 0⟩, ⟨.server, .handle 0⟩,
    ⟨.server, .take 0⟩, ⟨.server, .handle 0⟩, ⟨.server, .take 0⟩, ⟨.server, .handle 0⟩,
    ⟨.server, .take 0⟩, ⟨.server, .handle 0⟩, ⟨.server, .take 0⟩, ⟨.server, .handle 0⟩]

def transferred : Joint :=
  (final Joint.step joint transfer).getD joint

theorem transfer_run : Run Joint.step joint transfer transferred :=
  Run.of_enabled _ _ _ (by decide +kernel)

end Sample

end Fmtp.Http

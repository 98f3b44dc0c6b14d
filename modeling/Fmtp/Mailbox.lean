/-
This file proves that the HTTP node keeps what its connections receive. The messages in the channel
of an entry and those among the events under way are, in order and once each, those that the loop
of the connection has delivered. Nobody takes a message out, so the channel holds the first ones for
good, and where it is full the event task stops at the next one.
-/

import Fmtp.Tracking

open TransitionSystem

namespace Fmtp.Http

open Tokio

/-! ### The messages of a link -/

namespace Link

/-- The messages among the events between the loop and the registry. -/
def underWay (link : Link) : List FmtpMessage :=
  delivered (link.queue.map .sent)

/-- What is stored and what is under way is what the loop has delivered. -/
structure Keeps (link : Link) : Prop where
  whole : link.messages ++ link.underWay = delivered link.loop.connection.log
  bounded : link.messages.length ≤ channelSize

variable {link after : Link}

/-- The messages of the events are those of the log. -/
theorem delivered_events (log : List Action) :
    delivered ((events log).map .sent) = delivered log := by
  induction log with
  | nil => rfl
  | cons action rest inductionHypothesis =>
    have step : delivered (action :: rest) = action.delivered ++ delivered rest := rfl
    rw [step, ← inductionHypothesis]
    cases action with
    | sent event => rfl
    | dispatched | connected | wrote | shut => rfl

/-- A new loop has delivered nothing. -/
theorem Keeps.new {config : Config} {role : Role} {id : String} {first : Loop}
    (starts : Starts config role id first) : (Link.new role first).Keeps := by
  obtain ⟨_, _, silent⟩ := starts.begun.unreported
  refine ⟨?_, Nat.zero_le _⟩
  show [] = delivered first.connection.log
  rw [← delivered_events, silent]
  rfl

/-- An iteration brings what it delivers under way. -/
theorem Keeps.iterate {offer : Offer} {loop : Loop} (keeps : link.Keeps)
    (sent : link.pending = []) (move : link.loop.iterate offer = some loop)
    (commands : List UserCommand) (offers : List Offer) :
    Keeps { link with loop, pending := eventsSince link.loop loop, commands, offers } := by
  obtain ⟨actions, logged, _⟩ := link.loop.iterate_logs offer move
  have whole := keeps.whole
  refine ⟨?_, keeps.bounded⟩
  unfold underWay queue at whole ⊢
  rw [sent, List.append_nil] at whole
  rw [List.map_append, delivered_append, ← List.append_assoc, whole, eventsSince_of_log logged,
    delivered_events, ← delivered_append, ← logged]

/-- Events that move on stay under way. -/
theorem Keeps.of_queue (keeps : link.Keeps) (queue : after.queue = link.queue)
    (messages : after.messages = link.messages) (loop : after.loop = link.loop) :
    after.Keeps := by
  refine ⟨?_, messages ▸ keeps.bounded⟩
  rw [underWay, queue, messages, loop]
  exact keeps.whole

/-- A message that is handled is stored, if it has room. -/
theorem Keeps.handle {received : Option ConnectionEvent} {messages : List FmtpMessage}
    (keeps : link.Keeps) (hand : link.hand = some received)
    (room : ∀ msg, received = some (.dataReceived msg) →
      link.messages.length < channelSize ∧ messages = link.messages ++ [msg])
    (other : (∀ msg, received ≠ some (.dataReceived msg)) → messages = link.messages) :
    Keeps { link with hand := none, messages } := by
  have whole := keeps.whole
  unfold underWay at whole
  rw [@queue_of_handled link received messages hand] at whole
  have same (quiet : ∀ msg, received ≠ some (.dataReceived msg))
      (none_delivered : delivered (received.toList.map .sent) = []) :
      Keeps { link with hand := none, messages } := by
    rw [List.map_append, delivered_append, none_delivered, List.nil_append] at whole
    refine ⟨?_, other quiet ▸ keeps.bounded⟩
    rw [other quiet] at whole ⊢
    exact whole
  cases received with
  | none => exact same (fun _ equal => by cases equal) rfl
  | some event =>
    cases event with
    | stateChanged | connectionIdDetermined => exact same (fun _ equal => by cases equal) rfl
    | dataReceived msg =>
      obtain ⟨space, stored⟩ := room msg rfl
      subst stored
      refine ⟨?_, ?_⟩
      · rw [← whole, List.append_assoc]
        rfl
      · rw [List.length_append]
        exact space

end Link

/-! ### The messages of the node -/

namespace Node

/-- Every connection keeps its messages. -/
def Keeps (node : Node) : Prop :=
  ∀ task link, node.links task = some link → link.Keeps

variable {config : Config} {node next : Node} {label : Label}

theorem Keeps.setLink (keeps : node.Keeps) {task : Nat} {link : Link} (kept : link.Keeps) :
    (node.setLink task link).Keeps := by
  intro other link' linked
  by_cases same : other = task
  · subst same
    obtain rfl := Option.some.inj ((node.setLink_self other link).symm.trans linked)
    exact kept
  · exact keeps other link' ((node.setLink_other link same).symm.trans linked)

/-- What a connection has stored stays stored. -/
def Extends (node next : Node) : Prop :=
  ∀ task link, node.links task = some link →
    ∃ after, next.links task = some after ∧ link.messages <+: after.messages

/-- A link that changes and keeps what it has stored. -/
theorem extends_setLink {task : Nat} {link after : Link} (linked : node.links task = some link)
    (stored : link.messages <+: after.messages) : node.Extends (node.setLink task after) := by
  intro other link' linked'
  by_cases same : other = task
  · subst same
    obtain rfl := Option.some.inj (linked.symm.trans linked')
    exact ⟨after, node.setLink_self other after, stored⟩
  · exact ⟨link', (node.setLink_other after same).trans linked', List.prefix_rfl⟩

/-- A new link takes the place of none. -/
theorem extends_new {task : Nat} {link : Link} (unlinked : node.links task = none) :
    node.Extends (node.setLink task link) := by
  intro other link' linked'
  have distinct : other ≠ task := by
    rintro rfl
    cases unlinked.symm.trans linked'
  exact ⟨link', (node.setLink_other link distinct).trans linked', List.prefix_rfl⟩

/-- Every step of a tracked node keeps the messages. -/
theorem Tracked.keeps (tracked : node.Tracked config) (moves : node.Moves label next)
    (keeps : node.Keeps) : next.Keeps ∧ node.Extends next := by
  -- A step of one link.
  have own {task : Nat} {link after : Link} (linked : node.links task = some link)
      (stored : link.messages <+: after.messages) (kept : after.Keeps) :
      (node.setLink task after).Keeps ∧ node.Extends (node.setLink task after) :=
    ⟨keeps.setLink kept, extends_setLink linked stored⟩
  cases moves with
  | @accepted task _ now _ _ move =>
    have starts : Starts node.daemon.config .server ""
        ((Tokio.Connection.new node.daemon.config none).runServer now) := ⟨now, rfl⟩
    exact ⟨keeps.setLink (.new starts), extends_new (tracked.unlinked_accept move)⟩
  | @started task id _ _ _ _ move =>
    have starts : Starts node.daemon.config .client id
        (Tokio.Connection.new node.daemon.config (some id)).runClient := rfl
    exact ⟨keeps.setLink (.new starts), extends_new (tracked.unlinked_client move)⟩
  | inserted | reinserted | called | answered | acquired | refused | dropped | abandoned | aborted
  | unbound =>
    exact ⟨keeps, fun task link linked => ⟨link, linked, List.prefix_rfl⟩⟩
  | iterated linked _ sent move =>
    exact own linked List.prefix_rfl ((keeps _ _ linked).iterate sent move _ _)
  | sent linked _ first =>
    exact own linked List.prefix_rfl
      ((keeps _ _ linked).of_queue (Link.queue_of_sent first) rfl rfl)
  | broken linked alive unsent deaf =>
    exact absurd ((tracked.gone deaf linked).over alive).2 unsent
  | took _ linked empty first =>
    exact own linked List.prefix_rfl
      ((keeps _ _ linked).of_queue (Link.queue_of_taken empty first) rfl rfl)
  | hungUp _ linked empty =>
    refine own linked List.prefix_rfl ((keeps _ _ linked).of_queue ?_ rfl rfl)
    rw [Link.queue, Link.queue, empty]
    rfl
  | @handled task _ _ link received messages _ waiting linked hand _ room other =>
    have receives := tracked.consistent.receives waiting
    have stored : link.messages <+: messages := by
      by_cases data : ∃ msg, received = some (.dataReceived msg)
      · obtain ⟨msg, same⟩ := data
        rw [(room msg same receives).2]
        exact List.prefix_append _ _
      · have same := other (not_exists.mp data)
        subst same
        exact List.prefix_rfl
    exact own linked stored ((keeps _ _ linked).handle hand
      (fun msg received => room msg received receives) other)
  | posted _ linked | cancelled _ linked =>
    exact own linked List.prefix_rfl ((keeps _ _ linked).of_queue rfl rfl rfl)

end Node

section Runs

variable {config : Config} {first last : Node} {labels : List Label}

theorem Node.Keeps.run (started : Node.start config = .ok first)
    (run : Run Node.step first labels last)
    (orderly : EachStep Node.step Node.Orderly first labels) :
    last.Keeps ∧ EachMove Node.step (fun node _ next => node.Extends next) first labels := by
  have kept : ∀ node label next, node.Tracked config ∧ node.Keeps → Node.Orderly node label →
      Node.step node label = some next →
        (next.Tracked config ∧ next.Keeps) ∧ node.Extends next := by
    rintro node label next ⟨tracked, keeps⟩ orderly move
    obtain ⟨keeps, stays⟩ := tracked.keeps (Node.step_moves move) keeps
    exact ⟨⟨tracked.step orderly (Node.step_moves move), keeps⟩, stays⟩
  have empty : first.Keeps := fun task link linked => by
    cases ((Node.start_spec started).2.1 task).symm.trans linked
  obtain ⟨⟨_, keeps⟩, stays⟩ := EachStep.preserves kept run ⟨.start started, empty⟩ orderly
  exact ⟨keeps, stays⟩

end Runs

end Fmtp.Http

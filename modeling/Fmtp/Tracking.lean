/-
This file proves that the HTTP node tracks its connections. The events between a loop and the
registry lead from the state in the entry to the state that the loop has reported, so an entry
whose events are handled shows the state of its machine, under the id that the machine has
stored. And the commands that the handlers have sent are, in order and once each, those that the
loop has received and those in its channel.
-/

import Fmtp.Node

open TransitionSystem

namespace Fmtp.Tokio.Daemon

/-- A step leaves the entries of other tasks alone, if its insertion finds the key unused. -/
theorem Consistent.frame {daemon next : Daemon} {label : Label} (consistent : daemon.Consistent)
    (unused : daemon.Unused label) (effect : Effect daemon label.task label.deed next)
    {id : String} {connection : ConnectionState} (other : connection.commandTx ≠ label.task)
    (found : daemon.connections.lookup id = some connection) :
    next.connections.lookup id = some connection := by
  have fresh : ∀ key, daemon.inserts label = some key → id ≠ key := by
    rintro key inserts rfl
    cases (unused id inserts).symm.trans found
  have apart : ∀ role key, daemon.tasks label.task = .waiting role key → id ≠ key := by
    rintro role key waiting rfl
    obtain ⟨connection', found', owner⟩ := consistent.holds _ _ _ waiting
    obtain rfl := Option.some.inj (found.symm.trans found')
    exact other owner
  obtain ⟨task, deed⟩ := label
  cases effect with
  | accepted | named | received | lost | dropped => exact found
  | inserted => exact (AList.lookup_insert_ne (fresh _ rfl)).trans found
  | started _ _ configured =>
    refine (AList.lookup_insert_ne (fresh _ ?_)).trans found
    show daemon.clients.head? = _
    rw [configured]
    rfl
  | updated waiting => exact (AList.lookup_insert_ne (apart _ _ waiting)).trans found
  | removed waiting => exact (AList.lookup_erase_ne (apart _ _ waiting)).trans found
  | reinserted rekeying =>
    refine (AList.lookup_insert_ne (fresh _ ?_)).trans found
    simp only [inserts, rekeying]
  | closed waiting => exact (AList.lookup_erase_ne (apart _ _ waiting)).trans found

/-- The configuration stays. -/
theorem Effect.config {daemon next : Daemon} {task : Nat} {deed : Deed}
    (effect : Effect daemon task deed next) : next.config = daemon.config := by
  cases effect <;> rfl

end Fmtp.Tokio.Daemon

namespace Fmtp.Http

open Tokio

/-! ### What a step does -/

namespace Node

/-- What a step does, with the guards under which it does it. -/
inductive Moves (node : Node) : Label → Node → Prop
  | accepted {task : Nat} {remoteAddr : SocketAddr} {now : Instant} {daemon : Daemon}
      (accepting : node.accepting = true)
      (move : node.daemon.step ⟨task, .accept remoteAddr⟩ = some daemon) :
      Moves node (.accept task remoteAddr now)
        { node.setLink task
            (.new .server ((Tokio.Connection.new node.daemon.config none).runServer now)) with
          daemon }
  | inserted {task : Nat} {uuid : String} {daemon : Daemon} (free : node.holder = none)
      (move : node.daemon.step ⟨task, .insert uuid⟩ = some daemon) :
      Moves node (.insert task uuid) { node with daemon }
  | started {task : Nat} {id : String} {clients : List String} {daemon : Daemon}
      (free : node.holder = none) (first : node.daemon.clients = id :: clients)
      (move : node.daemon.step ⟨task, .client⟩ = some daemon) :
      Moves node (.client task)
        ({ node with daemon }.setLink task
          (.new .client (Tokio.Connection.new node.daemon.config (some id)).runClient))
  | iterated {task : Nat} {offer : Offer} {link : Link} {loop : Loop}
      (linked : node.links task = some link) (alive : link.cancelled = false)
      (sent : link.pending = []) (move : link.loop.iterate
        (link.offer (node.closed task) (node.listens task) offer) = some loop) :
      Moves node (.iterate task offer)
        (node.setLink task
          { link with
            loop
            pending := eventsSince link.loop loop
            commands := link.commands.drop (Link.received link.loop
              (link.offer (node.closed task) (node.listens task) offer)).length
            offers := link.offers ++ [link.offer (node.closed task) (node.listens task) offer] })
  | sent {task : Nat} {offer : Offer} {link : Link} {event : ConnectionEvent}
      {pending : List ConnectionEvent} (linked : node.links task = some link)
      (alive : link.cancelled = false) (first : link.pending = event :: pending)
      (room : link.channel.length < channelSize) :
      Moves node (.send task offer)
        (node.setLink task { link with pending, channel := link.channel ++ [event] })
  | broken {task : Nat} {offer : Offer} {link : Link} {loop : Loop}
      (linked : node.links task = some link) (alive : link.cancelled = false)
      (unsent : link.pending ≠ []) (deaf : node.daemon.tasks task = .ended) :
      Moves node (.send task offer) (node.setLink task { link with loop, pending := [] })
  | took {task : Nat} {role : Role} {id : String} {link : Link} {event : ConnectionEvent}
      {channel : List ConnectionEvent} (waiting : node.daemon.tasks task = .waiting role id)
      (linked : node.links task = some link) (empty : link.hand = none)
      (first : link.channel = event :: channel) :
      Moves node (.take task)
        (node.setLink task { link with channel, hand := some (some event) })
  | hungUp {task : Nat} {role : Role} {id : String} {link : Link}
      (waiting : node.daemon.tasks task = .waiting role id)
      (linked : node.links task = some link) (empty : link.hand = none)
      (drained : link.channel = []) (gone : link.Gone) :
      Moves node (.take task) (node.setLink task { link with hand := some none })
  | handled {task : Nat} {role : Role} {id : String} {link : Link}
      {received : Option ConnectionEvent} {messages : List FmtpMessage} {daemon : Daemon}
      (waiting : node.daemon.tasks task = .waiting role id)
      (linked : node.links task = some link) (hand : link.hand = some received)
      (free : locks role received = true → node.holder = none)
      (room : ∀ msg, received = some (.dataReceived msg) →
        node.daemon.receives task = true →
          link.messages.length < channelSize ∧ messages = link.messages ++ [msg])
      (other : (∀ msg, received ≠ some (.dataReceived msg)) → messages = link.messages)
      (move : node.daemon.step ⟨task, deed received⟩ = some daemon) :
      Moves node (.handle task)
        { node.setLink task { link with hand := none, messages } with daemon }
  | reinserted {task : Nat} {daemon : Daemon} (free : node.holder = none)
      (move : node.daemon.step ⟨task, .reinsert⟩ = some daemon) :
      Moves node (.reinsert task) { node with daemon }
  | called {request : Nat} {call : Call} (absent : node.requests request = .absent) :
      Moves node (.call request call)
        { node with requests := Function.update node.requests request (.calling call) }
  | answered {request : Nat} {call : Call} {response : Response} (free : node.holder = none)
      (calling : node.requests request = .calling call) (refused : response ≠ .ok) :
      Moves node (.acquire request) (node.answer request response)
  | acquired {request : Nat} {connId : String} {command : UserCommand}
      {connection : Daemon.ConnectionState} (free : node.holder = none)
      (calling : node.requests request = .calling (.post connId command))
      (found : node.daemon.connections.lookup connId = some connection) :
      Moves node (.acquire request)
        { node with
          requests := Function.update node.requests request
            (.sending connId connection.commandTx command)
          holder := some request }
  | refused {request task : Nat} {connId : String} {command : UserCommand} {link : Link}
      (sending : node.requests request = .sending connId task command)
      (linked : node.links task = some link)
      (ended : link.cancelled = true ∨ link.loop.result ≠ none) :
      Moves node (.complete request)
        (node.answer request (.internalServerError "channel closed"))
  | posted {request task : Nat} {connId : String} {command : UserCommand} {link : Link}
      (sending : node.requests request = .sending connId task command)
      (linked : node.links task = some link) (alive : link.cancelled = false)
      (running : link.loop.result = none) (room : link.commands.length < channelSize) :
      Moves node (.complete request)
        ((node.setLink task (link.post command)).answer request .ok)
  | dropped {request : Nat} {call : Call} (calling : node.requests request = .calling call) :
      Moves node (.drop request)
        { node with requests := Function.update node.requests request .dropped }
  | abandoned {request task : Nat} {connId : String} {command : UserCommand}
      (sending : node.requests request = .sending connId task command) :
      Moves node (.drop request)
        { node with
          requests := Function.update node.requests request .dropped
          holder := none }
  | aborted {task : Nat} {link : Link} (started : node.daemon.clients = [])
      (linked : node.links task = some link) (panicked : link.panicked = true) :
      Moves node (.abort task) { node with aborted := true }
  | cancelled {task : Nat} {link : Link} (aborted : node.aborted = true)
      (linked : node.links task = some link) (client : link.role = .client) (runs : ¬ link.Gone) :
      Moves node (.cancel task) (node.setLink task { link with cancelled := true })
  | unbound (aborted : node.aborted = true) :
      Moves node .cancelAccept { node with accepting := false }

variable {node next : Node}

theorem underLock_cases {label : Daemon.Label} (move : node.underLock label = some next) :
    node.holder = none ∧ ∃ daemon, node.daemon.step label = some daemon ∧
      next = { node with daemon } := by
  unfold underLock at move
  split at move
  · cases move
  · rename_i free
    obtain ⟨daemon, stepped, rfl⟩ := Option.map_eq_some_iff.mp move
    exact ⟨free, daemon, stepped, rfl⟩

theorem handle_moves {task : Nat} (move : node.handle task = some next) :
    node.Moves (.handle task) next := by
  unfold handle at move
  split at move
  · rename_i link role id linked waiting
    split at move
    · cases move
    · rename_i received hand
      dsimp only at move
      split at move
      · rename_i msg
        split at move
        · rename_i receives
          split at move
          · rename_i room
            obtain ⟨daemon, stepped, rfl⟩ := Option.map_eq_some_iff.mp move
            refine .handled waiting linked hand (fun locked => by cases locked) ?_ ?_ stepped
            · intro msg' same _
              cases same
              exact ⟨room, rfl⟩
            · intro other
              exact absurd rfl (other msg)
          · cases move
        · rename_i deaf
          obtain ⟨daemon, stepped, rfl⟩ := Option.map_eq_some_iff.mp move
          refine .handled waiting linked hand (fun locked => by cases locked) ?_ ?_ stepped
          · intro _ _ receives
            exact absurd receives deaf
          · intro _
            rfl
      · rename_i other
        split at move
        · cases move
        · rename_i unlocked
          obtain ⟨daemon, stepped, rfl⟩ := Option.map_eq_some_iff.mp move
          refine .handled waiting linked hand (fun locked => ?_) ?_ (fun _ => rfl) stepped
          · exact not_not.mp fun held => unlocked ⟨locked, held⟩
          · intro msg same _
            exact absurd same (other msg)
  · cases move

theorem acquire_moves {request : Nat} (move : node.acquire request = some next) :
    node.Moves (.acquire request) next := by
  unfold acquire at move
  split at move
  · rename_i free calling
    obtain rfl := Option.some.inj move
    exact .answered free calling fun same => by cases same
  · rename_i connId free calling
    split at move
    · obtain rfl := Option.some.inj move
      exact .answered free calling fun same => by cases same
    · obtain rfl := Option.some.inj move
      exact .answered free calling fun same => by cases same
  · rename_i connId command free calling
    split at move
    · rename_i connection found
      obtain rfl := Option.some.inj move
      exact .acquired free calling found
    · obtain rfl := Option.some.inj move
      exact .answered free calling fun same => by cases same
  · cases move

theorem complete_moves {request : Nat} (move : node.complete request = some next) :
    node.Moves (.complete request) next := by
  unfold complete at move
  split at move
  · rename_i connId task command sending
    split at move
    · cases move
    · rename_i link linked
      split at move
      · rename_i ended
        obtain rfl := Option.some.inj move
        exact .refused sending linked ended
      · rename_i running
        obtain ⟨alive, running⟩ := not_or.mp running
        split at move
        · rename_i room
          obtain rfl := Option.some.inj move
          exact .posted sending linked (Bool.eq_false_of_not_eq_true alive) (not_not.mp running)
            room
        · cases move
  · cases move

theorem drop_moves {request : Nat} (move : node.drop request = some next) :
    node.Moves (.drop request) next := by
  unfold drop at move
  dsimp only at move
  split at move
  · rename_i call calling
    obtain rfl := Option.some.inj move
    exact .dropped calling
  · rename_i connId task command sending
    obtain rfl := Option.some.inj move
    exact .abandoned sending
  all_goals cases move

theorem iterate_moves {task : Nat} {offer : Offer}
    (move : node.step (.iterate task offer) = some next) :
    node.Moves (.iterate task offer) next := by
  obtain ⟨link, linked, move⟩ := Option.bind_eq_some_iff.mp move
  obtain ⟨after, stepped, rfl⟩ := Option.map_eq_some_iff.mp move
  unfold Link.iterate at stepped
  split at stepped
  · cases stepped
  · cases stepped
  · rename_i alive sent
    obtain ⟨loop, iterated, rfl⟩ := Option.map_eq_some_iff.mp stepped
    exact .iterated linked alive sent iterated

theorem send_moves {task : Nat} {offer : Offer}
    (move : node.step (.send task offer) = some next) : node.Moves (.send task offer) next := by
  obtain ⟨link, linked, move⟩ := Option.bind_eq_some_iff.mp move
  obtain ⟨after, stepped, rfl⟩ := Option.map_eq_some_iff.mp move
  unfold Link.send at stepped
  split at stepped
  · cases stepped
  · cases stepped
  · rename_i event pending alive first
    split at stepped
    · rename_i listening
      split at stepped
      · rename_i room
        obtain rfl := Option.some.inj stepped
        exact .sent linked alive first room
      · cases stepped
    · rename_i deaf
      obtain rfl := Option.some.inj stepped
      refine .broken linked alive ?_ (not_not.mp fun listening => deaf ?_)
      · rw [first]
        exact List.cons_ne_nil _ _
      · exact decide_eq_true listening

theorem take_moves {task : Nat} (move : node.step (.take task) = some next) :
    node.Moves (.take task) next := by
  unfold step at move
  dsimp only at move
  split at move
  · rename_i role id waiting
    obtain ⟨link, linked, move⟩ := Option.bind_eq_some_iff.mp move
    obtain ⟨after, stepped, rfl⟩ := Option.map_eq_some_iff.mp move
    unfold Link.take at stepped
    split at stepped
    · rename_i event channel empty first
      obtain rfl := Option.some.inj stepped
      exact .took waiting linked empty first
    · rename_i empty drained
      split at stepped
      · rename_i gone
        obtain rfl := Option.some.inj stepped
        exact .hungUp waiting linked empty drained gone
      · cases stepped
    · cases stepped
  · cases move

theorem step_moves {label : Label} (move : node.step label = some next) :
    node.Moves label next := by
  cases label with
  | accept =>
    unfold step at move
    dsimp only at move
    split at move
    · rename_i accepting
      obtain ⟨daemon, stepped, rfl⟩ := Option.map_eq_some_iff.mp move
      exact .accepted accepting stepped
    · cases move
  | insert =>
    obtain ⟨free, daemon, stepped, rfl⟩ := underLock_cases move
    exact .inserted free stepped
  | client =>
    unfold step at move
    dsimp only at move
    split at move
    · cases move
    · rename_i id clients first
      obtain ⟨middle, locked, rfl⟩ := Option.map_eq_some_iff.mp move
      obtain ⟨free, daemon, stepped, rfl⟩ := underLock_cases locked
      exact .started free first stepped
  | iterate => exact iterate_moves move
  | send => exact send_moves move
  | take => exact take_moves move
  | handle => exact handle_moves move
  | reinsert =>
    obtain ⟨free, daemon, stepped, rfl⟩ := underLock_cases move
    exact .reinserted free stepped
  | call =>
    unfold step at move
    dsimp only at move
    split at move
    · rename_i absent
      obtain rfl := Option.some.inj move
      exact .called absent
    · cases move
  | acquire => exact acquire_moves move
  | complete => exact complete_moves move
  | drop => exact drop_moves move
  | abort =>
    obtain ⟨link, linked, move⟩ := Option.bind_eq_some_iff.mp move
    split at move
    · rename_i panics
      obtain rfl := Option.some.inj move
      exact .aborted panics.1 linked panics.2
    · cases move
  | cancel =>
    obtain ⟨link, linked, move⟩ := Option.bind_eq_some_iff.mp move
    split at move
    · rename_i dropped
      obtain rfl := Option.some.inj move
      exact .cancelled dropped.1 linked dropped.2.1 dropped.2.2
    · cases move
  | cancelAccept =>
    unfold step at move
    dsimp only at move
    split at move
    · rename_i aborted
      obtain rfl := Option.some.inj move
      exact .unbound aborted
    · cases move

end Node

/-! ### What a link has been through -/

/-- The commands that the iterations of a run receive. -/
def consumed : Loop → List Offer → List UserCommand
  | _, [] => []
  | loop, offer :: rest =>
    match loop.iterate offer with
    | none => []
    | some next => Link.received loop offer ++ consumed next rest

theorem consumed_append {first loop next : Loop} {offers : List Offer} {offer : Offer}
    (run : Run Loop.iterate first offers loop) (move : loop.iterate offer = some next) :
    consumed first (offers ++ [offer]) = consumed first offers ++ Link.received loop offer := by
  induction run with
  | nil loop =>
    show consumed loop [offer] = _
    simp only [consumed, move, List.append_nil, List.nil_append]
  | @cons loop middle last first rest step _ inductionHypothesis =>
    rw [List.cons_append, consumed, consumed, step]
    simp only [inductionHypothesis move, List.append_assoc]

namespace Link

/-- A link whose loop has run from its start, and has received its commands in order. All its events
come from iterations. -/
structure Traced (first : Loop) (link : Link) : Prop where
  run : Run Loop.iterate first link.offers link.loop
  listens : ∀ offer ∈ link.offers, offer.Listens
  accepted : link.accepted = consumed first link.offers ++ link.commands
  room : link.commands.length ≤ channelSize
  bounded : link.channel.length ≤ channelSize
  unsent : link.offers = [] → link.queue = []

theorem Traced.new (role : Role) (first : Loop) : (Link.new role first).Traced first :=
  ⟨.nil first, List.forall_mem_nil _, rfl, Nat.zero_le _, Nat.zero_le _, fun _ => rfl⟩

theorem told_new {role : Role} {first : Loop} (unnamed : first.id = none) :
    idReports (Link.new role first).queue = (Link.new role first).loop.id.toList := by
  show [] = Option.toList first.id
  rw [unnamed]
  rfl

/-- The events under way lead from a state to the one that the loop has reported. -/
def Shows (state : State) (link : Link) : Prop :=
  (stateReports link.queue).getLastD state = link.loop.state

/-- The id that the loop has reported is under way or handled. -/
def Named (id : String) (link : Link) : Prop :=
  match link.loop.id with
  | none => idReports link.queue = []
  | some told => idReports link.queue = [told] ∨ idReports link.queue = [] ∧ told = id

/-- The end of the channel is received once the task of the loop is gone. -/
def Hung (link : Link) : Prop :=
  link.hand = some none → link.Gone

/-- A task that was not cancelled is gone once its loop has returned and everything is sent. -/
theorem Gone.over {link : Link} (gone : link.Gone) (alive : link.cancelled = false) :
    link.loop.result ≠ none ∧ link.pending = [] :=
  gone.resolve_left fun cancelled => Bool.false_ne_true (alive.symm.trans cancelled)

/-- What a link does by itself. -/
structure Advances (link after : Link) : Prop where
  role : after.role = link.role
  traced : ∀ first, link.Traced first → after.Traced first
  shown : ∀ state, link.Shows state → after.Shows state
  ids : idReports after.queue = idReports link.queue ∧ after.loop.id = link.loop.id ∨
    link.loop.id = none ∧
      ∃ id, after.loop.id = some id ∧ idReports after.queue = idReports link.queue ++ [id]
  gone : link.Gone → after.Gone
  hung : link.Hung → after.Hung

variable {link after : Link} {first : Loop} {state : State} {id : String} {offer : Offer}

theorem Advances.named (advances : link.Advances after) (named : link.Named id) :
    after.Named id := by
  unfold Named at named ⊢
  rcases advances.ids with ⟨queue, same⟩ | ⟨unknown, told, known, queue⟩
  · rw [queue, same]
    exact named
  · rw [unknown] at named
    rw [known, queue, named]
    exact Or.inl rfl

theorem named_of_told (told : idReports link.queue = link.loop.id.toList) : link.Named id := by
  unfold Named
  cases known : link.loop.id with
  | none =>
    rw [known] at told
    exact told
  | some id =>
    rw [known] at told
    exact Or.inl told

theorem Advances.told (advances : link.Advances after)
    (told : idReports link.queue = link.loop.id.toList) :
    idReports after.queue = after.loop.id.toList := by
  rcases advances.ids with ⟨queue, same⟩ | ⟨unknown, told', known, queue⟩
  · rw [queue, same]
    exact told
  · rw [queue, told, unknown, known]
    rfl

/-- Links with the same events and the same loop. -/
theorem Advances.of_queue (role : after.role = link.role)
    (traced : ∀ first, link.Traced first → after.Traced first)
    (queue : after.queue = link.queue) (loop : after.loop = link.loop)
    (gone : link.Gone → after.Gone) (hung : link.Hung → after.Hung) : link.Advances after := by
  refine ⟨role, traced, fun state shown => ?_, Or.inl ⟨by rw [queue], by rw [loop]⟩, gone, hung⟩
  unfold Shows at shown ⊢
  rw [queue, loop]
  exact shown

/-- An iteration receives nothing but the first command of the channel. -/
theorem received_offer (closed listens : Bool) :
    received link.loop (link.offer closed listens offer) ++
        link.commands.drop (received link.loop (link.offer closed listens offer)).length =
      link.commands := by
  unfold received
  split
  · rename_i command selected
    have chosen : _ ∧ (link.offer closed listens offer).command = some command :=
      Loop.select_chosen selected
    have offered := chosen.2
    unfold Link.offer at offered
    dsimp only at offered
    split at offered
    · rename_i front rest commands
      obtain rfl := Option.some.inj offered
      rw [commands]
      rfl
    · split at offered
      · obtain rfl := Option.some.inj offered
        rfl
      · cases offered
  · rfl

/-- An iteration reports what is new. -/
theorem advances_iterate {loop : Loop} {closed : Bool} (alive : link.cancelled = false)
    (sent : link.pending = [])
    (move : link.loop.iterate (link.offer closed true offer) = some loop) :
    link.Advances
      { link with
        loop
        pending := eventsSince link.loop loop
        commands := link.commands.drop
          (received link.loop (link.offer closed true offer)).length
        offers := link.offers ++ [link.offer closed true offer] } := by
  have listens : (link.offer closed true offer).Listens := fun _ => rfl
  have reported := Loop.iterate_reported listens move
  have queue : ∀ commands offers,
      queue { link with loop, pending := eventsSince link.loop loop, commands, offers } =
        link.queue ++ eventsSince link.loop loop := by
    intro commands offers
    rw [Link.queue, Link.queue, sent, List.append_nil]
  refine ⟨rfl, fun first traced => ⟨?_, ?_, ?_, ?_, traced.bounded, fun none => ?_⟩,
    fun state shown => ?_, ?_, fun gone => ?_, fun hung closed => ?_⟩
  · exact traced.run.append (.cons move (.nil loop))
  · exact List.forall_mem_append.mpr ⟨traced.listens, List.forall_mem_singleton.mpr listens⟩
  · show link.accepted = consumed first (link.offers ++ _) ++ _
    rw [consumed_append traced.run move, List.append_assoc, received_offer]
    exact traced.accepted
  · show (link.commands.drop _).length ≤ _
    rw [List.length_drop]
    exact (Nat.sub_le _ _).trans traced.room
  · exact absurd none (List.append_ne_nil_of_right_ne_nil _ (List.cons_ne_nil _ _))
  · unfold Shows at shown ⊢
    rw [queue, stateReports_append]
    show _ = loop.state
    rw [reported.shown, ← shown]
    simp only [List.getLastD_eq_getLast?, List.getLast?_append]
    cases (stateReports (eventsSince link.loop loop)).getLast? <;> rfl
  · rw [queue, idReports_append, reported.ids]
    show _ ∧ loop.id = _ ∨ _ ∧ ∃ id, loop.id = _ ∧ _
    cases running : loop.result.isNone with
    | false =>
      refine Or.inl ⟨?_, (reported.ended running).2⟩
      rw [if_neg fun both => Bool.false_ne_true both.1, List.append_nil]
    | true =>
      rw [(reported.current running).2]
      cases told : link.loop.id with
      | some id =>
        refine Or.inl ⟨?_, rfl⟩
        rw [if_neg fun both => Option.some_ne_none id both.2, List.append_nil]
      | none =>
        rw [if_pos ⟨rfl, rfl⟩]
        cases loop.connection.inner.storage.id with
        | none => exact Or.inl ⟨List.append_nil _, rfl⟩
        | some id => exact Or.inr ⟨rfl, id, rfl, rfl⟩
  · exact absurd (Loop.iterate_spec _ _ move).1 (gone.over alive).1
  · exact absurd (Loop.iterate_spec _ _ move).1 ((hung closed).over alive).1

/-- Events that move on are the same events. -/
theorem Advances.of_moved {pending channel : List ConnectionEvent}
    {hand : Option (Option ConnectionEvent)}
    (queue : queue { link with pending, channel, hand } = link.queue)
    (bounded : link.channel.length ≤ channelSize → channel.length ≤ channelSize)
    (gone : link.Gone → Gone { link with pending, channel, hand })
    (hung : link.Hung → Hung { link with pending, channel, hand }) :
    link.Advances { link with pending, channel, hand } :=
  .of_queue rfl (fun _ traced => ⟨traced.run, traced.listens, traced.accepted, traced.room,
    bounded traced.bounded, fun none => queue.trans (traced.unsent none)⟩) queue rfl gone hung

theorem queue_of_sent {pending : List ConnectionEvent} {event : ConnectionEvent}
    (first : link.pending = event :: pending) :
    queue { link with pending, channel := link.channel ++ [event] } = link.queue := by
  rw [queue, queue, first]
  simp only [List.append_assoc, List.singleton_append]

theorem queue_of_taken {channel : List ConnectionEvent} {event : ConnectionEvent}
    (empty : link.hand = none) (first : link.channel = event :: channel) :
    queue { link with channel, hand := some (some event) } = link.queue := by
  rw [queue, queue, empty, first]
  rfl

theorem advances_send {event : ConnectionEvent} {pending : List ConnectionEvent}
    (alive : link.cancelled = false) (first : link.pending = event :: pending)
    (room : link.channel.length < channelSize) :
    link.Advances { link with pending, channel := link.channel ++ [event] } := by
  refine .of_moved (queue_of_sent first) (fun _ => ?_) (fun gone => ?_) fun hung closed => ?_
  · rw [List.length_append]
    exact room
  · cases first.symm.trans (gone.over alive).2
  · cases first.symm.trans ((hung closed).over alive).2

theorem advances_take {event : ConnectionEvent} {channel : List ConnectionEvent}
    (empty : link.hand = none) (first : link.channel = event :: channel) :
    link.Advances { link with channel, hand := some (some event) } := by
  refine .of_moved (queue_of_taken empty first) (fun bounded => ?_) (fun gone => gone)
    fun _ closed => by cases closed
  rw [first, List.length_cons] at bounded
  exact Nat.le_of_succ_le bounded

theorem advances_hangUp (empty : link.hand = none) (gone : link.Gone) :
    link.Advances { link with hand := some none } := by
  refine .of_moved ?_ (fun bounded => bounded) (fun gone => gone) fun _ _ => gone
  rw [queue, queue, empty]
  rfl

theorem advances_post (command : UserCommand) (room : link.commands.length < channelSize) :
    link.Advances (link.post command) := by
  refine .of_queue rfl (fun first traced => ⟨traced.run, traced.listens, ?_, ?_, traced.bounded,
    traced.unsent⟩) rfl rfl (fun gone => gone) fun hung => hung
  · show link.accepted ++ [command] = _ ++ (link.commands ++ [command])
    rw [traced.accepted, List.append_assoc]
    rfl
  · show (link.commands ++ [command]).length ≤ _
    rw [List.length_append]
    exact room

/-- A task that is cancelled has done what it has done. -/
theorem advances_cancel : link.Advances { link with cancelled := true } :=
  .of_queue rfl (fun _ traced => ⟨traced.run, traced.listens, traced.accepted, traced.room,
    traced.bounded, traced.unsent⟩) rfl rfl (fun _ => Or.inl rfl) fun _ _ => Or.inl rfl

/-- What is handled is no longer under way. -/
theorem queue_of_handled {received : Option ConnectionEvent} {messages : List FmtpMessage}
    (hand : link.hand = some received) :
    link.queue = received.toList ++ queue { link with hand := none, messages } := by
  rw [queue, queue, hand, List.append_assoc]
  rfl

theorem Traced.handle {received : Option ConnectionEvent} (traced : link.Traced first)
    (hand : link.hand = some received) (messages : List FmtpMessage) :
    Traced first { link with hand := none, messages } := by
  refine ⟨traced.run, traced.listens, traced.accepted, traced.room, traced.bounded, fun none => ?_⟩
  have empty := traced.unsent none
  rw [@queue_of_handled link received messages hand] at empty
  exact (List.append_eq_nil_iff.mp empty).2

/-- The state that the entry shows once something received is handled. -/
def showing (state : State) : Option ConnectionEvent → State
  | some (.stateChanged state') => state'
  | some (.connectionIdDetermined _) | some (.dataReceived _) | none => state

theorem Shows.handle {received : Option ConnectionEvent} (shown : link.Shows state)
    (hand : link.hand = some received) (messages : List FmtpMessage) :
    Shows (showing state received) { link with hand := none, messages } := by
  have under := shown
  unfold Shows at under ⊢
  rw [@queue_of_handled link received messages hand] at under
  cases received with
  | none => exact under
  | some event =>
    cases event with
    | stateChanged state' =>
      refine Eq.trans ?_ under
      show _ = (state' :: stateReports _).getLastD state
      rw [List.getLastD_cons]
      rfl
    | connectionIdDetermined | dataReceived => exact under

theorem Named.handle {received : Option ConnectionEvent} (named : link.Named id)
    (hand : link.hand = some received) (messages : List FmtpMessage)
    (other : ∀ told, received ≠ some (.connectionIdDetermined told)) :
    Named id { link with hand := none, messages } := by
  have under := named
  unfold Named at under ⊢
  rw [@queue_of_handled link received messages hand] at under
  cases received with
  | none => exact under
  | some event =>
    cases event with
    | stateChanged | dataReceived => exact under
    | connectionIdDetermined told => exact absurd rfl (other told)

/-- The id that the event task receives is the one that the loop has reported, and the only one. -/
theorem Named.determined {told : String} (named : link.Named id)
    (hand : link.hand = some (some (.connectionIdDetermined told)))
    (messages : List FmtpMessage) :
    idReports (queue { link with hand := none, messages }) = [] ∧ link.loop.id = some told := by
  have under := named
  unfold Named at under
  rw [@queue_of_handled link _ messages hand] at under
  have cons : idReports ((some (ConnectionEvent.connectionIdDetermined told)).toList ++
      queue { link with hand := none, messages }) =
        told :: idReports (queue { link with hand := none, messages }) := rfl
  rw [cons] at under
  cases known : link.loop.id with
  | none =>
    rw [known] at under
    cases under
  | some id =>
    rw [known] at under
    rcases under with same | ⟨none, _⟩
    · obtain ⟨rfl, empty⟩ := List.cons.inj same
      exact ⟨empty, rfl⟩
    · cases none

end Link

/-! ### What the registry knows of a link -/

/-- The loop that a connection task starts. -/
def Starts (config : Config) (role : Role) (id : String) (first : Loop) : Prop :=
  match role with
  | .client => first = (Tokio.Connection.new config (some id)).runClient
  | .server => ∃ now, first = (Tokio.Connection.new config none).runServer now

theorem Starts.begun {config : Config} {role : Role} {id : String} {first : Loop}
    (starts : Starts config role id first) : Begun [] first := by
  cases role with
  | client => exact ⟨_, rfl, Or.inl starts⟩
  | server => exact ⟨_, rfl, Or.inr starts⟩

/-- A link whose event task waits has its entry, and the events under way lead from the entry to
what the loop has reported. A server's entry is under the id that the loop has reported, once that
is handled. -/
structure Registered (daemon : Daemon) (task : Nat) (role : Role) (id : String) (link : Link)
    (first : Loop) (connection : Daemon.ConnectionState) : Prop where
  played : link.role = role
  starts : Starts daemon.config role id first
  traced : link.Traced first
  found : daemon.connections.lookup id = some connection
  owner : connection.commandTx = task
  shown : link.Shows connection.state
  named : role = .server → link.Named id

/-- What holds of a link while its event task is where it is. -/
inductive Tracks (daemon : Daemon) (task : Nat) (link : Link) : Prop
  | accepted {remoteAddr : SocketAddr} {first : Loop}
      (handler : daemon.tasks task = .accepted remoteAddr) (empty : link.hand = none)
      (played : link.role = .server) (starts : Starts daemon.config .server "" first)
      (traced : link.Traced first)
      (shown : link.Shows .idle) (told : idReports link.queue = link.loop.id.toList)
  | waiting {role : Role} {id : String} {first : Loop} {connection : Daemon.ConnectionState}
      (handler : daemon.tasks task = .waiting role id)
      (registered : Registered daemon task role id link first connection) (hung : link.Hung)
  | rekeying {id determinedId : String} {first : Loop} {connection : Daemon.ConnectionState}
      (handler : daemon.tasks task = .rekeying id determinedId connection)
      (empty : link.hand = none) (played : link.role = .server)
      (starts : Starts daemon.config .server "" first) (traced : link.Traced first)
      (owner : connection.commandTx = task)
      (shown : link.Shows connection.state) (handled : idReports link.queue = [])
      (told : link.loop.id = some determinedId)
  | ended {role : Role} {id : String} {first : Loop} (handler : daemon.tasks task = .ended)
      (starts : Starts daemon.config role id first) (traced : link.Traced first)
      (gone : link.Gone)

namespace Tracks

variable {daemon next : Daemon} {task : Nat} {link after : Link}

/-- A step that leaves the task and its entry alone. -/
theorem frame (tracks : Tracks daemon task link) (config : next.config = daemon.config)
    (same : next.tasks task = daemon.tasks task)
    (entries : ∀ id connection, connection.commandTx = task →
      daemon.connections.lookup id = some connection →
        next.connections.lookup id = some connection) : Tracks next task link := by
  cases tracks with
  | accepted handler empty played starts traced shown told =>
    rw [← config] at starts
    exact .accepted (same.trans handler) empty played starts traced shown told
  | waiting handler registered hung =>
    obtain ⟨played, starts, traced, found, owner, shown, named⟩ := registered
    rw [← config] at starts
    exact .waiting (same.trans handler)
      ⟨played, starts, traced, entries _ _ owner found, owner, shown, named⟩ hung
  | rekeying handler empty played starts traced owner shown handled told =>
    rw [← config] at starts
    exact .rekeying (same.trans handler) empty played starts traced owner shown handled told
  | ended handler starts traced gone =>
    rw [← config] at starts
    exact .ended (same.trans handler) starts traced gone

/-- The link does something by itself. -/
theorem advance (tracks : Tracks daemon task link) (advances : link.Advances after)
    (hand : after.hand = link.hand ∨ ∃ role id, daemon.tasks task = .waiting role id) :
    Tracks daemon task after := by
  cases tracks with
  | accepted handler empty played starts traced shown told =>
    have same := hand.resolve_right fun waiting => by
      obtain ⟨_, _, waiting⟩ := waiting
      cases handler.symm.trans waiting
    exact .accepted handler (same.trans empty) (advances.role.trans played) starts
      (advances.traced _ traced) (advances.shown _ shown) (advances.told told)
  | waiting handler registered hung =>
    obtain ⟨played, starts, traced, found, owner, shown, named⟩ := registered
    exact .waiting handler ⟨advances.role.trans played, starts, advances.traced _ traced, found,
      owner, advances.shown _ shown, fun server => advances.named (named server)⟩
      (advances.hung hung)
  | rekeying handler empty played starts traced owner shown handled told =>
    have same := hand.resolve_right fun waiting => by
      obtain ⟨_, _, waiting⟩ := waiting
      cases handler.symm.trans waiting
    rcases advances.ids with ⟨queue, loop⟩ | ⟨unknown, _⟩
    · exact .rekeying handler (same.trans empty) (advances.role.trans played) starts
        (advances.traced _ traced) owner (advances.shown _ shown) (queue.trans handled)
        (loop.trans told)
    · cases unknown.symm.trans told
  | ended handler starts traced gone =>
    exact .ended handler starts (advances.traced _ traced) (advances.gone gone)

/-- A new link is tracked by the event task of an accepted connection. -/
theorem accept {remoteAddr : SocketAddr} {now : Instant}
    (move : daemon.step ⟨task, .accept remoteAddr⟩ = some next) :
    Tracks next task
      (.new .server ((Tokio.Connection.new daemon.config none).runServer now)) := by
  have starts : Starts daemon.config .server ""
      ((Tokio.Connection.new daemon.config none).runServer now) := ⟨now, rfl⟩
  obtain ⟨idle, unnamed, _⟩ := starts.begun.unreported
  cases Daemon.step_effect move with
  | accepted =>
    exact .accepted (Function.update_self _ _ _) rfl rfl starts (.new _ _) idle.symm
      (Link.told_new unnamed)
  | lost waiting =>
    simp only [Daemon.step, waiting] at move
    cases move

/-- A new link is tracked by the event task of a client. -/
theorem client {id : String} {clients : List String} (first : daemon.clients = id :: clients)
    (move : daemon.step ⟨task, .client⟩ = some next) :
    Tracks next task
      (.new .client (Tokio.Connection.new daemon.config (some id)).runClient) := by
  cases Daemon.step_effect move with
  | started _ _ configured =>
    obtain ⟨rfl, _⟩ := List.cons.inj (first.symm.trans configured)
    have starts : Starts daemon.config .client id
        (Tokio.Connection.new daemon.config (some id)).runClient := rfl
    exact .waiting (Function.update_self _ _ _)
      ⟨rfl, starts, .new _ _, AList.lookup_insert _, rfl, rfl, fun server => by cases server⟩
      fun closed => by cases closed
  | lost waiting =>
    simp only [Daemon.step, waiting] at move
    cases move

/-- The entry of an accepted connection is inserted. -/
theorem insert {uuid : String} (tracks : Tracks daemon task link)
    (move : daemon.step ⟨task, .insert uuid⟩ = some next) : Tracks next task link := by
  cases Daemon.step_effect move with
  | @inserted _ remoteAddr handler =>
    cases tracks with
    | @accepted _ first _ empty played starts traced shown told =>
      let connection : Daemon.ConnectionState :=
        { state := .idle, remoteAddr := some remoteAddr, commandTx := task, msgRx := task }
      have starts : Starts daemon.config .server uuid first := starts
      have found : (daemon.connections.insert uuid connection).lookup uuid = some connection :=
        AList.lookup_insert _
      refine .waiting (Function.update_self _ _ _)
        ⟨played, starts, traced, found, rfl, shown, fun _ => Link.named_of_told told⟩
        fun closed => ?_
      cases empty.symm.trans closed
    | waiting other | rekeying other | ended other => cases handler.symm.trans other
  | lost waiting =>
    simp only [Daemon.step, waiting] at move
    cases move

/-- The entry is inserted again under its new key. -/
theorem reinsert (tracks : Tracks daemon task link)
    (move : daemon.step ⟨task, .reinsert⟩ = some next) : Tracks next task link := by
  cases Daemon.step_effect move with
  | reinserted handler =>
    cases tracks with
    | @rekeying _ determinedId first connection other empty played starts traced owner shown
        handled told =>
      injection handler.symm.trans other with _ named same
      subst named same
      have starts : Starts daemon.config .server _ first := starts
      refine .waiting (Function.update_self _ _ _)
        ⟨played, starts, traced, AList.lookup_insert _, owner, shown, fun _ => ?_⟩
        fun closed => ?_
      · unfold Link.Named
        rw [told]
        exact Or.inr ⟨handled, rfl⟩
      · cases empty.symm.trans closed
    | accepted other | waiting other | ended other => cases handler.symm.trans other
  | lost waiting =>
    simp only [Daemon.step, waiting] at move
    cases move

/-- What the event task has received is handled. -/
theorem handle {received : Option ConnectionEvent} (consistent : daemon.Consistent)
    (tracks : Tracks daemon task link) (hand : link.hand = some received)
    (messages : List FmtpMessage)
    (move : daemon.step ⟨task, deed received⟩ = some next) :
    Tracks next task { link with hand := none, messages } := by
  have effect := Daemon.step_effect move
  cases tracks with
  | accepted handler empty => cases empty.symm.trans hand
  | rekeying handler empty => cases empty.symm.trans hand
  | ended handler =>
    simp only [Daemon.step, handler] at move
    cases received with
    | none => cases move
    | some event => cases event <;> cases move
  | @waiting role id first connection handler registered hung =>
    obtain ⟨played, starts, traced, found, owner, shown, named⟩ := registered
    have traced := traced.handle hand messages
    have shown := shown.handle hand messages
    have kept (other : ∀ told, received ≠ some (.connectionIdDetermined told))
        (server : role = .server) : Link.Named id { link with hand := none, messages } :=
      (named server).handle hand messages other
    have open_ : Link.Hung { link with hand := none, messages } := fun closed => by cases closed
    have present : ∀ {role id}, daemon.tasks task = .waiting role id →
        daemon.connections.lookup id ≠ none := by
      intro role id waiting missing
      obtain ⟨_, found, _⟩ := consistent.holds _ _ _ waiting
      cases missing.symm.trans found
    cases received with
    | none =>
      cases effect with
      | closed => exact .ended (Function.update_self _ _ _) starts traced (hung hand)
      | lost waiting missing => exact absurd missing (present waiting)
    | some event =>
      cases event with
      | stateChanged state =>
        cases effect with
        | updated waiting before =>
          injection handler.symm.trans waiting with _ same
          subst same
          obtain rfl := Option.some.inj (found.symm.trans before)
          exact .waiting handler
            ⟨played, starts, traced, AList.lookup_insert _, owner, shown,
              kept fun _ same => by cases same⟩ open_
        | lost waiting missing => exact absurd missing (present waiting)
      | connectionIdDetermined told =>
        cases effect with
        | removed waiting before =>
          injection handler.symm.trans waiting with server same
          subst server same
          obtain rfl := Option.some.inj (found.symm.trans before)
          obtain ⟨handled, known⟩ := (named rfl).determined hand messages
          exact .rekeying (Function.update_self _ _ _) rfl played starts traced owner shown handled
            known
        | named waiting =>
          injection handler.symm.trans waiting with same
          subst same
          exact .waiting handler
            ⟨played, starts, traced, found, owner, shown, fun server => by cases server⟩ open_
        | lost waiting missing => exact absurd missing (present waiting)
      | dataReceived msg =>
        cases effect with
        | received =>
          exact .waiting handler
            ⟨played, starts, traced, found, owner, shown, kept fun _ same => by cases same⟩ open_
        | dropped waiting deaf => cases (consistent.receives waiting).symm.trans deaf
        | lost waiting missing => exact absurd missing (present waiting)

end Tracks

/-! ### The node keeps track -/

namespace Node

/-- The registry is consistent, every link is tracked, and the handler that sends holds the lock
while its connection is under the key that it was called with. -/
structure Tracked (config : Config) (node : Node) : Prop where
  config : node.daemon.config = config
  consistent : node.daemon.Consistent
  linked : ∀ task, node.daemon.tasks task ≠ .absent → ∃ link, node.links task = some link
  tracks : ∀ task link, node.links task = some link → Tracks node.daemon task link
  held : ∀ request connId task command,
    node.requests request = .sending connId task command →
      node.holder = some request ∧ ∃ role, node.daemon.tasks task = .waiting role connId

/-- A node starts with its daemon alone. -/
theorem start_spec {config : Config} {first : Node} (started : start config = .ok first) :
    Daemon.run config = .ok first.daemon ∧ (∀ task, first.links task = none) ∧
      ∀ request, first.requests request = .absent := by
  unfold Node.start at started
  cases run : Daemon.run config with
  | error fault =>
    rw [run] at started
    cases started
  | ok daemon =>
    rw [run] at started
    obtain rfl := Except.ok.inj started
    exact ⟨rfl, fun _ => rfl, fun _ => rfl⟩

theorem Tracked.start {config : Config} {first : Node} (started : start config = .ok first) :
    first.Tracked config := by
  obtain ⟨run, unlinked, uncalled⟩ := start_spec started
  have absent : ∀ task, first.daemon.tasks task = .absent ∧ first.daemon.config = config := by
    intro task
    unfold Daemon.run at run
    dsimp only at run
    split at run
    · cases run
    · rw [← Except.ok.inj run]
      exact ⟨rfl, rfl⟩
  refine ⟨(absent 0).2, .run run, ?_, ?_, ?_⟩
  · intro task present
    exact absurd (absent task).1 present
  · intro task link linked
    cases (unlinked task).symm.trans linked
  · intro request connId task command sending
    cases (uncalled request).symm.trans sending

variable {config : Config} {node next : Node} {label : Label}

theorem setLink_self (node : Node) (task : Nat) (link : Link) :
    (node.setLink task link).links task = some link :=
  Function.update_self _ _ _

theorem setLink_other (node : Node) {task other : Nat} (link : Link) (distinct : other ≠ task) :
    (node.setLink task link).links other = node.links other :=
  Function.update_of_ne distinct _ _

/-- A link that changes and stays tracked leaves the rest of the node tracked. -/
theorem Tracked.setLink (tracked : node.Tracked config) {task : Nat} {after : Link}
    (tracks : Tracks node.daemon task after) : (node.setLink task after).Tracked config := by
  refine ⟨tracked.config, tracked.consistent, ?_, ?_, tracked.held⟩
  · intro other present
    by_cases same : other = task
    · subst same
      exact ⟨after, node.setLink_self other after⟩
    · obtain ⟨link', linked'⟩ := tracked.linked other present
      exact ⟨link', (node.setLink_other after same).trans linked'⟩
  · intro other link' linked'
    by_cases same : other = task
    · subst same
      obtain rfl := Option.some.inj ((node.setLink_self other after).symm.trans linked')
      exact tracks
    · exact tracked.tracks other link' ((node.setLink_other after same).symm.trans linked')

/-- A handler that goes on leaves the links tracked. Where it sends, it is the holder. -/
theorem Tracked.request (tracked : node.Tracked config) {request : Nat} {state : Request}
    {holder : Option Nat}
    (others : ∀ other connId task command, other ≠ request →
      node.requests other = .sending connId task command → holder = some other)
    (own : ∀ connId task command, state = .sending connId task command →
      holder = some request ∧ ∃ role, node.daemon.tasks task = .waiting role connId) :
    Tracked config
      { node with requests := Function.update node.requests request state, holder } := by
  refine ⟨tracked.config, tracked.consistent, tracked.linked, tracked.tracks, ?_⟩
  intro other connId task command sending
  by_cases same : other = request
  · subst same
    exact own connId task command
      ((Function.update_self other state node.requests).symm.trans sending)
  · have before := (Function.update_of_ne same state node.requests).symm.trans sending
    exact ⟨others other connId task command same before,
      (tracked.held other connId task command before).2⟩

/-- Only the holder sends. -/
theorem Tracked.only (tracked : node.Tracked config) {request task task' other : Nat}
    {connId connId' : String} {command command' : UserCommand}
    (sending : node.requests request = .sending connId task command)
    (sending' : node.requests other = .sending connId' task' command') : other = request := by
  have holder := (tracked.held request connId task command sending).1
  have holder' := (tracked.held other connId' task' command' sending').1
  exact Option.some.inj (holder'.symm.trans holder)

/-- A step of the daemon tracks its task, and the rest of the node stays tracked. -/
theorem Tracked.daemon (tracked : node.Tracked config) {label : Daemon.Label} {daemon : Daemon}
    (unused : node.daemon.Unused label) (move : node.daemon.step label = some daemon)
    {links : Nat → Option Link} (others : ∀ task, task ≠ label.task → links task = node.links task)
    (own : ∃ link, links label.task = some link ∧ Tracks daemon label.task link)
    (held : ∀ request connId task command, node.requests request = .sending connId task command →
      daemon.tasks task = node.daemon.tasks task) :
    Tracked config { node with daemon, links } := by
  have effect := Daemon.step_effect move
  refine ⟨effect.config.trans tracked.config, tracked.consistent.step unused effect, ?_, ?_, ?_⟩
  · intro task present
    by_cases same : task = label.task
    · obtain ⟨link, linked, _⟩ := own
      exact ⟨link, same ▸ linked⟩
    · have before : node.daemon.tasks task ≠ .absent := effect.others same ▸ present
      obtain ⟨link, linked⟩ := tracked.linked task before
      exact ⟨link, (others task same).trans linked⟩
  · intro task link linked
    by_cases same : task = label.task
    · obtain ⟨link', linked', tracks⟩ := own
      rw [same] at linked ⊢
      obtain rfl := Option.some.inj (linked'.symm.trans linked)
      exact tracks
    · refine (tracked.tracks task link ((others task same).symm.trans linked)).frame effect.config
        (effect.others same) fun id connection owner found => ?_
      exact tracked.consistent.frame unused effect (owner ▸ same) found
  · intro request connId task command sending
    obtain ⟨holder, role, waiting⟩ := tracked.held request connId task command sending
    exact ⟨holder, role, (held request connId task command sending).trans waiting⟩

/-- Nobody sends while the lock is free. -/
theorem Tracked.not_sending (tracked : node.Tracked config) (free : node.holder = none)
    {request task : Nat} {connId : String} {command : UserCommand} :
    node.requests request ≠ .sending connId task command := by
  intro sending
  cases free.symm.trans (tracked.held request connId task command sending).1

/-- What a waiting event task does without the lock leaves it waiting. -/
theorem Tracked.handles (tracked : node.Tracked config) {task : Nat} {role : Role} {id : String}
    {received : Option ConnectionEvent} {daemon : Daemon}
    (waiting : node.daemon.tasks task = .waiting role id) (unlocked : locks role received = false)
    (move : node.daemon.step ⟨task, deed received⟩ = some daemon) :
    daemon = node.daemon := by
  have effect := Daemon.step_effect move
  cases received with
  | none => cases unlocked
  | some event =>
    cases event with
    | stateChanged state => cases unlocked
    | connectionIdDetermined told =>
      cases effect with
      | removed other =>
        injection waiting.symm.trans other with played
        subst played
        cases unlocked
      | named => rfl
      | lost other missing =>
        obtain ⟨_, found, _⟩ := tracked.consistent.holds _ _ _ other
        cases missing.symm.trans found
    | dataReceived msg =>
      cases effect with
      | received => rfl
      | dropped other deaf => cases (tracked.consistent.receives other).symm.trans deaf
      | lost other missing =>
        obtain ⟨_, found, _⟩ := tracked.consistent.holds _ _ _ other
        cases missing.symm.trans found

/-- An event task ends after its loop. -/
theorem Tracked.gone (tracked : node.Tracked config) {task : Nat} {link : Link}
    (ended : node.daemon.tasks task = .ended) (linked : node.links task = some link) :
    link.Gone := by
  cases tracked.tracks task link linked with
  | ended _ _ _ gone => exact gone
  | accepted handler | waiting handler | rekeying handler => cases ended.symm.trans handler

/-- What the link of a task has been through. -/
theorem Tracked.traced (tracked : node.Tracked config) {task : Nat} {link : Link}
    (linked : node.links task = some link) :
    ∃ role id first, Starts node.daemon.config role id first ∧ link.Traced first := by
  cases tracked.tracks task link linked with
  | accepted _ _ _ starts traced | rekeying _ _ _ starts traced | ended _ starts traced =>
    exact ⟨_, _, _, starts, traced⟩
  | waiting _ registered => exact ⟨_, _, _, registered.starts, registered.traced⟩

/-- Every orderly step keeps the node tracked. -/
theorem Tracked.step (tracked : node.Tracked config) (orderly : node.Orderly label)
    (moves : node.Moves label next) : next.Tracked config := by
  cases moves with
  | @accepted task remoteAddr now daemon _ move =>
    have unused := orderly ⟨task, .accept remoteAddr⟩ rfl
    refine tracked.daemon unused move (fun other distinct => node.setLink_other _ distinct)
      ⟨_, node.setLink_self _ _, .accept move⟩ fun request connId other command sending => ?_
    obtain ⟨_, role, waiting⟩ := tracked.held request connId other command sending
    refine (Daemon.step_effect move).others ?_
    rintro rfl
    simp only [Daemon.step, waiting] at move
    cases move
  | @inserted task uuid daemon free move =>
    have unused := orderly ⟨task, .insert uuid⟩ rfl
    have present : node.daemon.tasks task ≠ .absent := by
      intro absent
      simp only [Daemon.step, absent] at move
      cases move
    obtain ⟨link, linked⟩ := tracked.linked task present
    exact tracked.daemon unused move (fun _ _ => rfl)
      ⟨link, linked, (tracked.tracks task link linked).insert move⟩
      fun request connId other command sending => absurd sending (tracked.not_sending free)
  | @started task id clients daemon free first move =>
    have unused := orderly ⟨task, .client⟩ rfl
    exact tracked.daemon unused move (fun other distinct => node.setLink_other _ distinct)
      ⟨_, node.setLink_self _ _, .client first move⟩
      fun request connId other command sending => absurd sending (tracked.not_sending free)
  | @iterated task offer link loop linked alive sent move =>
    by_cases deaf : node.daemon.tasks task = .ended
    · exact absurd (Loop.iterate_spec _ _ move).1 ((tracked.gone deaf linked).over alive).1
    · have listens : node.listens task = true := decide_eq_true deaf
      rw [listens] at move ⊢
      exact tracked.setLink
        ((tracked.tracks task link linked).advance (Link.advances_iterate alive sent move)
          (Or.inl rfl))
  | @sent task offer link event pending linked alive first room =>
    exact tracked.setLink
      ((tracked.tracks task link linked).advance (Link.advances_send alive first room)
        (Or.inl rfl))
  | broken linked alive unsent deaf =>
    exact absurd ((tracked.gone deaf linked).over alive).2 unsent
  | took waiting linked empty first =>
    exact tracked.setLink ((tracked.tracks _ _ linked).advance (Link.advances_take empty first)
      (Or.inr ⟨_, _, waiting⟩))
  | hungUp waiting linked empty _ gone =>
    exact tracked.setLink ((tracked.tracks _ _ linked).advance
      (Link.advances_hangUp empty gone) (Or.inr ⟨_, _, waiting⟩))
  | cancelled _ linked =>
    exact tracked.setLink
      ((tracked.tracks _ _ linked).advance Link.advances_cancel (Or.inl rfl))
  | aborted | unbound =>
    exact ⟨tracked.config, tracked.consistent, tracked.linked, tracked.tracks, tracked.held⟩
  | @handled task role id link received messages daemon waiting linked hand free room other move =>
    have unused := orderly ⟨task, deed received⟩ (by
      show Option.bind _ _ = _
      rw [linked, Option.bind_some, hand]
      rfl)
    refine tracked.daemon unused move (fun other distinct => node.setLink_other _ distinct)
      ⟨_, node.setLink_self _ _,
        (tracked.tracks task link linked).handle tracked.consistent hand messages move⟩
      fun request connId other command sending => ?_
    by_cases locked : locks role received = true
    · exact absurd sending (tracked.not_sending (free locked))
    · rw [tracked.handles waiting (Bool.eq_false_iff.mpr locked) move]
  | @reinserted task daemon free move =>
    have unused := orderly ⟨task, .reinsert⟩ rfl
    have present : node.daemon.tasks task ≠ .absent := by
      intro absent
      simp only [Daemon.step, absent] at move
      cases move
    obtain ⟨link, linked⟩ := tracked.linked task present
    exact tracked.daemon unused move (fun _ _ => rfl)
      ⟨link, linked, (tracked.tracks task link linked).reinsert move⟩
      fun request connId other command sending => absurd sending (tracked.not_sending free)
  | called | dropped =>
    refine tracked.request (fun other connId task command _ sending => ?_)
      (fun _ _ _ same => by cases same)
    exact (tracked.held other connId task command sending).1
  | answered free =>
    exact tracked.request (fun _ _ _ _ _ sending => absurd sending (tracked.not_sending free))
      (fun _ _ _ same => by cases same)
  | acquired free calling found =>
    refine tracked.request (fun _ _ _ _ _ sending => absurd sending (tracked.not_sending free)) ?_
    intro connId task command sending
    injection sending with named owner
    subst named owner
    exact ⟨rfl, (tracked.consistent.owned _ _ found).1⟩
  | refused sending | abandoned sending =>
    refine tracked.request (fun other _ _ _ distinct sends => ?_) (fun _ _ _ same => by cases same)
    exact absurd (tracked.only sending sends) distinct
  | @posted request task connId command link sending linked _ _ room =>
    obtain ⟨_, role, waiting⟩ := tracked.held _ _ _ _ sending
    have posted := tracked.setLink ((tracked.tracks _ _ linked).advance
      (Link.advances_post command room) (Or.inr ⟨role, connId, waiting⟩))
    refine posted.request (fun other _ _ _ distinct sends => ?_) (fun _ _ _ same => by cases same)
    exact absurd (tracked.only sending sends) distinct

/-! ### What the handlers deliver -/

/-- The commands that were accepted for a task's connection. -/
def accepted (node : Node) (task : Nat) : List UserCommand :=
  match node.links task with
  | some link => link.accepted
  | none => []

/-- A step that answers a handler's command with 200 gives it to the connection that is under the
key of its path. Every other step accepts nothing. -/
def Delivers (node : Node) (label : Label) (next : Node) : Prop :=
  (∃ request connId task command role, label = .complete request ∧
    node.requests request = .sending connId task command ∧
    next.requests request = .answered .ok ∧
    node.daemon.tasks task = .waiting role connId ∧
    next.accepted = Function.update node.accepted task (node.accepted task ++ [command])) ∨
  next.accepted = node.accepted ∧ ∀ request, next.requests request = .answered .ok →
    node.requests request = .answered .ok

/-- A link that changes without accepting anything. -/
theorem accepted_setLink {task : Nat} {link after : Link} (linked : node.links task = some link)
    (same : after.accepted = link.accepted) :
    (node.setLink task after).accepted = node.accepted := by
  funext other
  unfold accepted
  by_cases own : other = task
  · subst own
    rw [setLink_self, linked]
    exact same
  · rw [setLink_other _ _ own]

/-- A new link has accepted nothing. -/
theorem accepted_new {task : Nat} {role : Role} {loop : Loop}
    (unlinked : node.links task = none) :
    (node.setLink task (.new role loop)).accepted = node.accepted := by
  funext other
  unfold accepted
  by_cases own : other = task
  · subst own
    rw [setLink_self, unlinked]
    rfl
  · rw [setLink_other _ _ own]

theorem Tracked.unlinked (tracked : node.Tracked config) {task : Nat}
    (absent : node.daemon.tasks task = .absent) : node.links task = none := by
  cases linked : node.links task with
  | none => rfl
  | some link =>
    cases tracked.tracks task link linked with
    | accepted handler | waiting handler | rekeying handler | ended handler =>
      cases absent.symm.trans handler

theorem Tracked.unlinked_accept (tracked : node.Tracked config) {task : Nat}
    {remoteAddr : SocketAddr} {daemon : Daemon}
    (move : node.daemon.step ⟨task, .accept remoteAddr⟩ = some daemon) :
    node.links task = none := by
  refine tracked.unlinked ?_
  cases Daemon.step_effect move with
  | accepted absent => exact absent
  | lost waiting =>
    simp only [Daemon.step, waiting] at move
    cases move

theorem Tracked.unlinked_client (tracked : node.Tracked config) {task : Nat} {daemon : Daemon}
    (move : node.daemon.step ⟨task, .client⟩ = some daemon) : node.links task = none := by
  refine tracked.unlinked ?_
  cases Daemon.step_effect move with
  | started absent => exact absent
  | lost waiting =>
    simp only [Daemon.step, waiting] at move
    cases move

/-- A handler that goes on without this answer is not the one that was answered. -/
theorem answered_of_update {requests : Nat → Request} {request other : Nat} {state : Request}
    {response : Response} (unanswered : state ≠ .answered response)
    (answered : Function.update requests request state other = .answered response) :
    requests other = .answered response := by
  by_cases same : other = request
  · subst same
    exact absurd ((Function.update_self other state requests).symm.trans answered) unanswered
  · exact (Function.update_of_ne same state requests).symm.trans answered

theorem Tracked.delivers (tracked : node.Tracked config) (moves : node.Moves label next) :
    node.Delivers label next := by
  cases moves with
  | accepted _ move =>
    exact Or.inr ⟨accepted_new (tracked.unlinked_accept move), fun _ answered => answered⟩
  | started free first move =>
    exact Or.inr ⟨accepted_new (tracked.unlinked_client move), fun _ answered => answered⟩
  | inserted | reinserted | aborted | unbound => exact Or.inr ⟨rfl, fun _ answered => answered⟩
  | iterated linked | sent linked | broken linked | took _ linked | hungUp _ linked
  | handled _ linked | cancelled _ linked =>
    exact Or.inr ⟨accepted_setLink linked rfl, fun _ answered => answered⟩
  | called | acquired | refused | dropped | abandoned =>
    exact Or.inr ⟨rfl, fun _ => answered_of_update fun same => by cases same⟩
  | answered _ _ refused =>
    refine Or.inr ⟨rfl, fun _ => answered_of_update fun same => refused ?_⟩
    injection same
  | @posted request task connId command link sending linked =>
    obtain ⟨_, role, waiting⟩ := tracked.held _ _ _ _ sending
    refine Or.inl ⟨request, connId, task, command, role, rfl, sending, Function.update_self _ _ _,
      waiting, ?_⟩
    funext other
    show (node.setLink task (link.post command)).accepted other = _
    unfold accepted
    by_cases own : other = task
    · subst own
      rw [setLink_self, Function.update_self, linked]
      rfl
    · rw [setLink_other _ _ own, Function.update_of_ne own]

end Node

/-! ### Runs of the node -/

section Runs

variable {config : Config} {first last : Node} {labels : List Label}

theorem Node.Tracked.run (started : Node.start config = .ok first)
    (run : Run Node.step first labels last)
    (orderly : EachStep Node.step Node.Orderly first labels) :
    last.Tracked config ∧ EachMove Node.step Node.Delivers first labels := by
  have kept : ∀ node label next, Node.Tracked config node → Node.Orderly node label →
      Node.step node label = some next → Node.Tracked config next ∧ node.Delivers label next :=
    fun _ _ _ tracked orderly move =>
      ⟨tracked.step orderly (Node.step_moves move), tracked.delivers (Node.step_moves move)⟩
  exact EachStep.preserves kept run (.start started) orderly

/-- As long as every insertion into the registry finds its key unused, every connection whose event
task waits has its entry, under the key that its loop has reported once that is handled. The
events under way lead from the state in the entry to the one that the loop has reported, and where
none is under way the entry shows the state of the machine. -/
theorem registry_shows (started : Node.start config = .ok first)
    (run : Run Node.step first labels last)
    (orderly : EachStep Node.step Node.Orderly first labels) {task : Nat} {role : Role}
    {id : String} {link : Link} (waiting : last.daemon.tasks task = .waiting role id)
    (linked : last.links task = some link) :
    ∃ loop connection, Registered last.daemon task role id link loop connection ∧
      (link.queue = [] → link.offers ≠ [] → link.loop.result = none →
        connection.state = link.loop.connection.inner.state) := by
  obtain ⟨tracked, _⟩ := Node.Tracked.run started run orderly
  cases tracked.tracks task link linked with
  | @waiting role' id' loop connection handler registered =>
    injection waiting.symm.trans handler with played same
    subst played same
    refine ⟨loop, connection, registered, fun handled iterated running => ?_⟩
    have shown := registered.shown
    unfold Link.Shows at shown
    rw [handled] at shown
    exact shown.trans
      (reports_settled registered.traced.run registered.traced.listens iterated running).1
  | accepted handler | rekeying handler | ended handler => cases waiting.symm.trans handler

end Runs

/-! ### A node that serves one connection, and one that calls -/

namespace Sample

open Tokio.Sample

/-- The node of the server of the tests. -/
def node : Node where
  daemon := Daemon.Sample.daemon
  links _ := none
  requests _ := .absent
  holder := none
  accepting := true
  aborted := false

theorem node_started : Node.start Fmtp.Sample.serverConfig = .ok node := rfl

/-- The node of the client of the tests. -/
def caller : Node where
  daemon :=
    { config := Fmtp.Sample.clientConfig, connections := ∅, tasks := fun _ => .absent, spawned := 0,
      clients := ["test"] }
  links _ := none
  requests _ := .absent
  holder := none
  accepting := true
  aborted := false

theorem caller_started : Node.start Fmtp.Sample.clientConfig = .ok caller := rfl

/-- A connection is accepted and identified, its id and its state are entered in the registry, and
its user disconnects it. -/
def serving : List Label :=
  [.accept 0 Daemon.Sample.address 1, .insert 0 "a", .iterate 0 (incoming greetingChunk),
    .send 0 quiet, .send 0 quiet, .take 0, .handle 0, .reinsert 0, .take 0, .handle 0,
    .call 0 (connDisconnect "test"), .acquire 0, .complete 0, .iterate 0 writable,
    .iterate 0 quiet, .send 0 quiet, .take 0, .handle 0]

/-- The node after that. -/
def served : Node :=
  (final Node.step node serving).getD node

theorem served_run : Run Node.step node serving served :=
  Run.of_enabled Node.step node serving (by decide +kernel)

theorem serving_orderly : EachStep Node.step Node.Orderly node serving := by
  decide +kernel

end Sample

/-- The entry of the connection that was disconnected shows Idle. -/
theorem registry_shows_serving : ∃ link, Sample.served.links 0 = some link ∧
    ∃ loop connection, Registered Sample.served.daemon 0 .server "test" link loop connection ∧
      (link.queue = [] → link.offers ≠ [] → link.loop.result = none →
        connection.state = link.loop.connection.inner.state) := by
  obtain ⟨link, linked⟩ := Option.isSome_iff_exists.mp
    (show (Sample.served.links 0).isSome = true by decide +kernel)
  exact ⟨link, linked, registry_shows Sample.node_started Sample.served_run
    Sample.serving_orderly (by decide +kernel) linked⟩

end Fmtp.Http

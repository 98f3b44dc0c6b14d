/-
This file proves what a run tells its user about the machine. After every iteration the loop
compares the state with the one it reported last, so the reported states are the states at the
ends of the iterations without the repetitions, and the id is reported once. The states that a
machine only passes through inside an iteration are not among them.
-/

import Fmtp.Pipeline
import Mathlib.Data.List.Destutter

namespace Fmtp.Tokio

open TransitionSystem

/-- The event receiver is open. -/
def Offer.Listens (offer : Offer) : Prop :=
  ∀ event, offer.listening event = true

/-- The states among some events. -/
def stateReports (events : List ConnectionEvent) : List State :=
  events.filterMap fun
    | .stateChanged state => some state
    | .connectionIdDetermined _ | .dataReceived _ => none

/-- The ids among some events. -/
def idReports (events : List ConnectionEvent) : List String :=
  events.filterMap fun
    | .connectionIdDetermined id => some id
    | .stateChanged _ | .dataReceived _ => none

/-- The action reports neither a state nor an id. -/
def Action.Discreet : Action → Prop
  | .sent (.stateChanged _) | .sent (.connectionIdDetermined _) => False
  | .dispatched _ | .connected _ _ | .wrote _ _ _ | .shut _ | .sent (.dataReceived _) => True

theorem reports_of_discreet {actions : List Action}
    (discreet : ∀ action ∈ actions, action.Discreet) :
    stateReports (events actions) = [] ∧ idReports (events actions) = [] := by
  induction actions with
  | nil => exact ⟨rfl, rfl⟩
  | cons action rest inductionHypothesis =>
    obtain ⟨head, others⟩ := List.forall_mem_cons.mp discreet
    have tail := inductionHypothesis others
    cases action with
    | sent event =>
      cases event with
      | dataReceived msg => exact tail
      | stateChanged | connectionIdDetermined => exact absurd head not_false
    | dispatched | connected | wrote | shut => exact tail

namespace Loop

/-! ### The arms report nothing -/

variable (loop : Loop) (offer : Offer)

theorem arm_discreet (branch : Branch) :
    Connection.Logs Action.Discreet loop.connection (loop.arm offer branch).connection := by
  have record {connection : Connection} (action : Action) (discreet : action.Discreet)
      (logs : Connection.Logs Action.Discreet loop.connection connection) :
      Connection.Logs Action.Discreet loop.connection (connection.record action) :=
    logs.trans (Connection.logs_record _ discreet)
  have kept : Kept (Connection.Logs Action.Discreet loop.connection) := by
    refine ⟨?_, fun socket address => record (.connected socket address) trivial,
      fun socket => record (.shut socket) trivial⟩
    intro before after event logs handled
    obtain ⟨entry, _, dispatches⟩ := Connection.dispatch_spec handled
    exact logs.trans (dispatches.logs trivial)
  have same : Connection.Logs Action.Discreet loop.connection loop.connection := .refl _
  cases branch with
  | transmit packet =>
    show Connection.Logs _ _ (loop.sendPacket offer packet).connection
    unfold sendPacket
    split
    · exact same
    · rename_i socket _
      have wrote (bytes : List Byte) := record (.wrote socket packet bytes) trivial same
      split
      · exact wrote _
      · exact kept.loopDispatch (wrote []) .rDisconnect
  | command received =>
    cases received with
    | none => exact kept.leave same
    | some command => exact kept.loopDispatch same _
  | receive msg =>
    unfold arm
    dsimp only
    split
    · exact record (.sent (.dataReceived msg)) trivial same
    · exact kept.leave same
  | machine turned =>
    cases turned with
    | idle => exact kept.idleArm same
    | failed text => exact kept.leave same
    | slept => exact same
    | raised event => exact kept.loopDispatch same event
  | read received =>
    show Connection.Logs _ _ (loop.readArm offer received).connection
    unfold readArm
    split
    · exact kept.loopDispatch same .rDisconnect
    · dsimp only
      split
      · rename_i connection handled
        obtain ⟨event, _, dispatched⟩ := Connection.handleRemotePacket_dispatch handled
        exact kept.dispatch same dispatched
      · exact same

/-- What a loop has reported. -/
structure Unreported (before after : Loop) : Prop where
  state : after.state = before.state
  id : after.id = before.id

namespace Unreported

variable {loop offer}

theorem refl (loop : Loop) : Unreported loop loop := ⟨rfl, rfl⟩

theorem dispatch (event : Event) : Unreported loop (loop.dispatch event) := by
  unfold Loop.dispatch
  split
  · exact ⟨rfl, rfl⟩
  · exact ⟨rfl, rfl⟩

theorem leave : Unreported loop (loop.leave offer) := by
  unfold Loop.leave
  split
  · exact ⟨rfl, rfl⟩
  · dsimp only
    split
    · exact ⟨rfl, rfl⟩
    · exact ⟨rfl, rfl⟩

theorem reconnect {id : String} {otherwise : Loop → Loop}
    (others : ∀ loop : Loop, Unreported loop (otherwise loop)) :
    Unreported loop (loop.reconnect offer id otherwise) := by
  unfold Loop.reconnect
  split
  · exact ⟨rfl, rfl⟩
  · exact ⟨rfl, rfl⟩
  · rename_i connection _ _
    have other := others { loop with connection }
    exact ⟨other.state, other.id⟩

theorem idleArm : Unreported loop (loop.idleArm offer) := by
  unfold Loop.idleArm
  split
  · exact leave
  · split
    · refine reconnect fun loop => ?_
      split
      · exact refl loop
      · exact leave
    · rename_i id _ _ socket _
      split
      · dsimp only
        split
        · exact ⟨rfl, rfl⟩
        · have again : Unreported (loop.record (.shut socket))
            ((loop.record (.shut socket)).reconnect offer id fun loop => loop) := reconnect refl
          exact ⟨again.state, again.id⟩
      · exact leave

end Unreported

/-- An arm changes nothing of what was reported. -/
theorem arm_unreported (branch : Branch) : Unreported loop (loop.arm offer branch) := by
  cases branch with
  | transmit packet =>
    show Unreported loop (loop.sendPacket offer packet)
    unfold sendPacket
    split
    · exact ⟨rfl, rfl⟩
    · rename_i socket _
      split
      · exact ⟨rfl, rfl⟩
      · have failed : Unreported (loop.record (.wrote socket packet []))
          ((loop.record (.wrote socket packet [])).dispatch .rDisconnect) := .dispatch _
        exact ⟨failed.state, failed.id⟩
  | command received =>
    cases received with
    | none => exact .leave
    | some command => exact .dispatch _
  | receive msg =>
    unfold arm
    dsimp only
    split
    · exact ⟨rfl, rfl⟩
    · exact .leave
  | machine turned =>
    cases turned with
    | idle => exact .idleArm
    | failed text => exact .leave
    | slept => exact .refl loop
    | raised event => exact .dispatch event
  | read received =>
    show Unreported loop (loop.readArm offer received)
    unfold readArm
    split
    · exact .dispatch _
    · dsimp only
      split
      · exact ⟨rfl, rfl⟩
      · exact ⟨rfl, rfl⟩

/-! ### The reports of an iteration -/

/-- The machine, the queues and the socket stay while some events are sent. -/
structure Tells (before after : Loop) (sent : List ConnectionEvent) : Prop where
  inner : after.connection.inner = before.connection.inner
  ctx : after.connection.ctx = before.connection.ctx
  socket : after.socket = before.socket
  sockets : after.sockets = before.sockets
  buffer : after.buffer = before.buffer
  result : after.result = before.result
  log : after.connection.log = before.connection.log ++ sent.map .sent

theorem Tells.refl : Tells loop loop [] :=
  ⟨rfl, rfl, rfl, rfl, rfl, rfl, (List.append_nil _).symm⟩

theorem Tells.trans {before middle after : Loop} {sent later : List ConnectionEvent}
    (left : Tells before middle sent) (right : Tells middle after later) :
    Tells before after (sent ++ later) := by
  refine ⟨right.inner.trans left.inner, right.ctx.trans left.ctx, right.socket.trans left.socket,
    right.sockets.trans left.sockets, right.buffer.trans left.buffer,
    right.result.trans left.result, ?_⟩
  rw [right.log, left.log, List.map_append, List.append_assoc]

/-- The id that is to be reported. -/
def idNews : List ConnectionEvent :=
  if loop.id = none then loop.connection.inner.storage.id.toList.map .connectionIdDetermined
  else []

/-- The state that is to be reported. -/
def stateNews : List ConnectionEvent :=
  if loop.connection.inner.state = loop.state then []
  else [.stateChanged loop.connection.inner.state]

variable {loop offer}

theorem reportId_tells (listens : offer.Listens) :
    Tells loop (loop.reportId offer) loop.idNews ∧ (loop.reportId offer).state = loop.state ∧
      (loop.reportId offer).id = loop.id.or loop.connection.inner.storage.id := by
  unfold reportId idNews
  cases told : loop.id with
  | some id => exact ⟨.refl loop, rfl, told⟩
  | none =>
    cases stored : loop.connection.inner.storage.id with
    | none => exact ⟨.refl loop, rfl, told⟩
    | some id =>
      simp only [send, if_pos (listens _)]
      exact ⟨⟨rfl, rfl, rfl, rfl, rfl, rfl, rfl⟩, rfl, rfl⟩

theorem reportState_tells (listens : offer.Listens) :
    Tells loop (loop.reportState offer) loop.stateNews ∧
      (loop.reportState offer).state = loop.connection.inner.state ∧
      (loop.reportState offer).id = loop.id := by
  unfold reportState stateNews
  split
  · rename_i same
    exact ⟨.refl loop, same.symm, rfl⟩
  · rw [send, if_pos (listens _)]
    exact ⟨⟨rfl, rfl, rfl, rfl, rfl, rfl, rfl⟩, rfl, rfl⟩

/-- The reports after an arm that goes on. -/
theorem reports_tell (listens : offer.Listens) (goes : loop.result = none) :
    ∃ next, (loop.andThen (·.reportId offer)).andThen (·.reportState offer) = next ∧
      Tells loop next (loop.idNews ++ loop.stateNews) ∧
      next.state = next.connection.inner.state ∧
      next.id = loop.id.or next.connection.inner.storage.id := by
  obtain ⟨first, state, id⟩ := @reportId_tells loop offer listens
  obtain ⟨second, state', id'⟩ := @reportState_tells (loop.reportId offer) offer listens
  have news : (loop.reportId offer).stateNews = loop.stateNews := by
    rw [stateNews, stateNews, first.inner, state]
  rw [news] at second
  refine ⟨(loop.reportId offer).reportState offer, ?_, first.trans second, ?_, ?_⟩
  · simp only [andThen, goes, first.result]
  · rw [state', second.inner]
  · rw [id', id, second.inner, first.inner]

/-- An iteration ends in its arm, or it goes on and reports what is new. -/
theorem iterate_tells {next : Loop} {branch : Branch} (listens : offer.Listens)
    (selected : loop.select offer = some branch) (move : loop.iterate offer = some next) :
    ((loop.pop.arm offer branch).result ≠ none ∧ next = loop.pop.arm offer branch) ∨
      (loop.pop.arm offer branch).result = none ∧
        Tells (loop.pop.arm offer branch) next
          ((loop.pop.arm offer branch).idNews ++ (loop.pop.arm offer branch).stateNews) ∧
        next.state = next.connection.inner.state ∧
        next.id = loop.id.or next.connection.inner.storage.id := by
  have kept : Unreported loop (loop.pop.arm offer branch) :=
    have popped := loop.pop.arm_unreported offer branch
    ⟨popped.state, popped.id⟩
  unfold iterate at move
  split at move
  · cases move
  · rw [selected, Option.map_some] at move
    have moved := Option.some.inj move
    cases ended : (loop.pop.arm offer branch).result with
    | some result =>
      refine Or.inl ⟨Option.some_ne_none result, ?_⟩
      simpa only [andThen, ended] using moved.symm
    | none =>
      obtain ⟨next', same, tells, state, id⟩ := reports_tell listens ended
      obtain rfl := moved.symm.trans same
      rw [kept.id] at id
      exact Or.inr ⟨rfl, tells, state, id⟩

end Loop

/-! ### The reports of a run -/

theorem stateReports_append (sent later : List ConnectionEvent) :
    stateReports (sent ++ later) = stateReports sent ++ stateReports later :=
  List.filterMap_append

theorem idReports_append (sent later : List ConnectionEvent) :
    idReports (sent ++ later) = idReports sent ++ idReports later :=
  List.filterMap_append

/-- What an observer sees of the machine at the ends of the iterations that go on. -/
def observed {Value : Type} (look : Fmtp.Connection → List Value) : Loop → List Offer → List Value
  | _, [] => []
  | loop, offer :: rest =>
    match loop.iterate offer with
    | none => []
    | some next =>
      (if next.result.isNone then look next.connection.inner else []) ++ observed look next rest

theorem observed_cons {Value : Type} (look : Fmtp.Connection → List Value) {loop next : Loop}
    {offer : Offer} (rest : List Offer) (move : loop.iterate offer = some next) :
    observed look loop (offer :: rest) =
      (if next.result.isNone then look next.connection.inner else []) ++
        observed look next rest := by
  rw [observed, move]

/-- The states at the ends of the iterations. -/
abbrev visited : Loop → List Offer → List State :=
  observed fun machine => [machine.state]

/-- The ids stored at the ends of the iterations. -/
abbrev stored : Loop → List Offer → List String :=
  observed fun machine => machine.storage.id.toList

/-- What one iteration reports. -/
structure Reported (loop next : Loop) : Prop where
  states : stateReports (eventsSince loop next) =
    if next.result.isNone ∧ next.connection.inner.state ≠ loop.state then
      [next.connection.inner.state]
    else []
  ids : idReports (eventsSince loop next) =
    if next.result.isNone ∧ loop.id = none then next.connection.inner.storage.id.toList else []
  ended : next.result.isNone = false → next.state = loop.state ∧ next.id = loop.id
  current : next.result.isNone = true → next.state = next.connection.inner.state ∧
    next.id = loop.id.or next.connection.inner.storage.id

theorem Loop.iterate_reported {loop next : Loop} {offer : Offer} (listens : offer.Listens)
    (move : loop.iterate offer = some next) : Reported loop next := by
  obtain ⟨_, branch, selected, _⟩ := loop.iterate_spec offer move
  obtain ⟨actions, logged, discreet⟩ := loop.pop.arm_discreet offer branch
  have kept := loop.pop.arm_unreported offer branch
  have silent := reports_of_discreet discreet
  have origin : loop.pop.connection.log = loop.connection.log := rfl
  rw [origin] at logged
  rcases iterate_tells listens selected move with ⟨ended, rfl⟩ | ⟨goes, tells, state, id⟩
  · have stopped : (loop.pop.arm offer branch).result.isNone = false := by
      rw [Option.isNone_eq_false_iff, Option.isSome_iff_ne_none]
      exact ended
    refine ⟨?_, ?_, fun _ => ⟨kept.state, kept.id⟩, ?_⟩
    · rw [eventsSince_of_log logged, silent.1, stopped]
      rfl
    · rw [eventsSince_of_log logged, silent.2, stopped]
      rfl
    · intro running
      rw [stopped] at running
      cases running
  · generalize loop.pop.arm offer branch = arm at *
    have running : next.result.isNone = true := by
      rw [tells.result, goes]
      rfl
    have whole : next.connection.log = loop.connection.log ++
        (actions ++ (arm.idNews ++ arm.stateNews).map .sent) := by
      rw [tells.log, logged, List.append_assoc]
    have sent (news : List ConnectionEvent) : events (news.map .sent) = news := by
      rw [events, List.filterMap_map]
      exact List.filterMap_some
    have since : eventsSince loop next = events actions ++ (arm.idNews ++ arm.stateNews) := by
      rw [eventsSince_of_log whole, events, List.filterMap_append]
      exact congrArg (events actions ++ ·) (sent _)
    have told : arm.id = loop.id := kept.id
    have shown : arm.state = loop.state := kept.state
    refine ⟨?_, ?_, ?_, fun _ => ⟨state, id⟩⟩
    · have names : stateReports arm.idNews = [] := by
        unfold idNews
        split
        · cases arm.connection.inner.storage.id <;> rfl
        · rfl
      rw [since, stateReports_append, silent.1, stateReports_append, names, tells.inner]
      unfold stateNews
      rw [shown]
      by_cases same : arm.connection.inner.state = loop.state
      · rw [if_pos same, if_neg fun both => both.2 same]
        rfl
      · rw [if_neg same, if_pos ⟨running, same⟩]
        rfl
    · have quiet : idReports arm.stateNews = [] := by
        unfold stateNews
        split <;> rfl
      rw [since, idReports_append, silent.2, idReports_append, quiet, tells.inner]
      unfold idNews
      rw [told]
      by_cases unknown : loop.id = none
      · rw [if_pos unknown, if_pos ⟨running, unknown⟩]
        cases arm.connection.inner.storage.id <;> rfl
      · rw [if_neg unknown, if_neg fun both => unknown both.2]
        rfl
    · intro ended
      rw [running] at ended
      cases ended

/-- What a loop shows after an iteration is what the iteration reported, or what it showed. -/
theorem Reported.shown {loop next : Loop} (reported : Reported loop next) :
    next.state = (stateReports (eventsSince loop next)).getLastD loop.state := by
  rw [reported.states]
  cases running : next.result.isNone with
  | false => exact (reported.ended running).1
  | true =>
    rw [(reported.current running).1]
    by_cases same : next.connection.inner.state = loop.state
    · rw [if_neg fun both => both.2 same]
      exact same
    · rw [if_pos ⟨rfl, same⟩]
      rfl

/-- A run that has ended goes no further. -/
theorem Loop.offers_of_ended {loop last : Loop} {offers : List Offer}
    (run : Run Loop.iterate loop offers last) (ended : loop.result.isNone = false) :
    offers = [] := by
  cases run with
  | nil => rfl
  | cons move _ =>
    rw [(Loop.iterate_spec _ _ move).1] at ended
    cases ended

/-- A loop that has reported `loop.state` and `loop.id` goes on with the further states, without
repetitions, and with the first further id if it has reported none. -/
theorem reports_run {loop last : Loop} {offers : List Offer}
    (run : Run Loop.iterate loop offers last) (listens : ∀ offer ∈ offers, offer.Listens) :
    loop.state :: stateReports (eventsSince loop last) =
        (loop.state :: visited loop offers).destutter (· ≠ ·) ∧
      idReports (eventsSince loop last) =
        if loop.id = none then (stored loop offers).head?.toList else [] := by
  induction run with
  | nil loop =>
    have since : eventsSince loop loop = [] := eventsSince_of_log (List.append_nil _).symm
    rw [since]
    refine ⟨rfl, ?_⟩
    show [] = _
    split <;> rfl
  | @cons loop next last offer rest move tail inductionHypothesis =>
    obtain ⟨open_, others⟩ := List.forall_mem_cons.mp listens
    have reported := Loop.iterate_reported open_ move
    obtain ⟨states, ids⟩ := inductionHypothesis others
    obtain ⟨actions, logged, _⟩ := loop.iterate_logs offer move
    rw [eventsSince_append ⟨actions, logged⟩ (run_logs tail), stateReports_append,
      idReports_append, ids, reported.states, reported.ids, visited, stored,
      observed_cons _ rest move, observed_cons _ rest move]
    cases running : next.result.isNone with
    | false =>
      obtain rfl := Loop.offers_of_ended tail running
      have since : eventsSince next last = [] := by
        cases tail
        exact eventsSince_of_log (List.append_nil _).symm
      rw [since]
      simp [observed, stateReports]
    | true =>
      obtain ⟨state, id⟩ := reported.current running
      rw [state] at states
      simp only [true_and, if_true, List.singleton_append, List.destutter_cons_cons]
      rw [← List.destutter_cons', ← states]
      refine ⟨?_, ?_⟩
      · by_cases same : next.connection.inner.state = loop.state
        · rw [if_neg fun news => news same, if_neg fun news => news same.symm,
            ← List.destutter_cons', ← same, ← states]
          rfl
        · rw [if_pos same, if_pos fun equal => same equal.symm]
          rfl
      · rw [id]
        cases loop.id with
        | some told => simp
        | none =>
          cases next.connection.inner.storage.id with
          | some id => simp
          | none => simp

/-- What a run shows is the last state it has reported. -/
theorem reports_shown {loop last : Loop} {offers : List Offer}
    (run : Run Loop.iterate loop offers last) (listens : ∀ offer ∈ offers, offer.Listens) :
    last.state = (stateReports (eventsSince loop last)).getLastD loop.state := by
  induction run with
  | nil loop =>
    rw [eventsSince_of_log (List.append_nil _).symm]
    rfl
  | @cons loop next last offer rest move tail inductionHypothesis =>
    obtain ⟨open_, others⟩ := List.forall_mem_cons.mp listens
    obtain ⟨actions, logged, _⟩ := loop.iterate_logs offer move
    rw [inductionHypothesis others, (Loop.iterate_reported open_ move).shown,
      eventsSince_append ⟨actions, logged⟩ (run_logs tail), stateReports_append]
    simp only [List.getLastD_eq_getLast?, List.getLast?_append]
    cases (stateReports (eventsSince next last)).getLast? <;> rfl

/-- A run that goes on has reported what its machine is in and stores. -/
theorem reports_settled {loop last : Loop} {offers : List Offer}
    (run : Run Loop.iterate loop offers last) (listens : ∀ offer ∈ offers, offer.Listens)
    (iterated : offers ≠ []) (running : last.result = none) :
    last.state = last.connection.inner.state ∧
      (last.id = none → last.connection.inner.storage.id = none) := by
  induction run with
  | nil => exact absurd rfl iterated
  | @cons loop next last offer rest move tail inductionHypothesis =>
    obtain ⟨open_, others⟩ := List.forall_mem_cons.mp listens
    cases tail with
    | nil =>
      have goes : next.result.isNone = true := by
        rw [running]
        rfl
      obtain ⟨state, id⟩ := (Loop.iterate_reported open_ move).current goes
      refine ⟨state, fun unknown => ?_⟩
      rw [unknown] at id
      exact (Option.or_eq_none_iff.mp id.symm).2
    | cons move' tail =>
      exact inductionHypothesis others (List.cons_ne_nil _ _) running

/-- A run that begins has reported nothing. -/
theorem Begun.unreported {first : List FmtpMessage} {loop : Loop} (begun : Begun first loop) :
    loop.state = .idle ∧ loop.id = none ∧ events loop.connection.log = [] := by
  obtain ⟨connection, _, rfl | ⟨now, rfl⟩⟩ := begun
  · exact ⟨rfl, rfl, rfl⟩
  · have started : Loop.Unreported (Loop.start connection (some 0) 1) (connection.runServer now) :=
      .dispatch _
    refine ⟨started.state, started.id, ?_⟩
    unfold Connection.runServer Loop.dispatch
    cases handled : (Loop.start connection (some 0) 1).connection.dispatch (.rSetup now) with
    | error fault => rfl
    | ok next =>
      obtain ⟨entry, _, dispatches⟩ := Connection.dispatch_spec handled
      show events next.log = []
      rw [dispatches.log]
      rfl

/-- While the receiver is open, the states that a run reports are, after Idle, the states of its
machine at the ends of the iterations without repetitions, the ids are the first one stored there,
and between two iterations the state last reported is the state of the machine. -/
theorem reports_exact {first : List FmtpMessage} {loop last : Loop} {offers : List Offer}
    (begun : Begun first loop) (run : Run Loop.iterate loop offers last)
    (listens : ∀ offer ∈ offers, offer.Listens) :
    .idle :: stateReports (events last.connection.log) =
        (.idle :: visited loop offers).destutter (· ≠ ·) ∧
      idReports (events last.connection.log) = (stored loop offers).head?.toList ∧
      (offers ≠ [] → last.result = none →
        (stateReports (events last.connection.log)).getLastD .idle =
          last.connection.inner.state) := by
  obtain ⟨idle, unnamed, silent⟩ := begun.unreported
  obtain ⟨actions, logged⟩ := run_logs run
  have since : events last.connection.log = eventsSince loop last := by
    rw [eventsSince_of_log logged, logged, events, List.filterMap_append]
    exact congrArg (· ++ events actions) silent
  obtain ⟨states, ids⟩ := reports_run run listens
  have shown := reports_shown run listens
  rw [idle] at states shown
  rw [if_pos unnamed] at ids
  rw [since]
  refine ⟨states, ids, fun iterated running => ?_⟩
  rw [← shown]
  exact (reports_settled run listens iterated running).1

/-- The client of the tests associates. -/
theorem reports_exact_association : ∃ last : Loop,
    .idle :: stateReports (events last.connection.log) =
        (.idle :: visited (Sample.client Fmtp.Sample.clientEntry) Sample.association).destutter
          (· ≠ ·) ∧
      idReports (events last.connection.log) =
        (stored (Sample.client Fmtp.Sample.clientEntry) Sample.association).head?.toList ∧
      (Sample.association ≠ [] → last.result = none →
        (stateReports (events last.connection.log)).getLastD .idle =
          last.connection.inner.state) :=
  ⟨_, reports_exact ⟨_, rfl, Or.inl rfl⟩
    (Run.of_enabled Loop.iterate _ Sample.association (by decide +kernel))
    Sample.association_listens⟩

end Fmtp.Tokio

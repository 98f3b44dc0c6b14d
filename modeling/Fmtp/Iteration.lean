/-
This file says once what an iteration of the loop can do. Outside the arm of a machine in
Idle, an arm makes at most one dispatch, of an event that its branch raises; everything else
it does leaves the machine and its queues alone. The invariants of whole runs are read off
these inversions.
-/

import Fmtp.Tokio

namespace Fmtp.Tokio

/-! ### Steps of the connection -/

/-- The actions that touch neither the machine nor its queues, open no socket and give the
user no message. -/
def Action.Plain : Action → Prop
  | .wrote _ _ _ | .shut _ | .sent (.stateChanged _) | .sent (.connectionIdDetermined _) => True
  | .dispatched _ | .connected _ _ | .sent (.dataReceived _) => False

/-- The actions that touch neither the machine nor its queues and open no socket. -/
def Action.Outward : Action → Prop
  | .wrote _ _ _ | .shut _ | .sent _ => True
  | .dispatched _ | .connected _ _ => False

theorem Action.Plain.outward {action : Action} (plain : action.Plain) : action.Outward := by
  cases action with
  | dispatched | connected => exact absurd plain not_false
  | wrote | shut | sent => trivial

namespace Connection

/-- The machine and its queues stay while some actions are logged. -/
structure Stays (before after : Connection) (actions : List Action) : Prop where
  inner : after.inner = before.inner
  ctx : after.ctx = before.ctx
  log : after.log = before.log ++ actions

/-- Only plain actions are logged. -/
def Reports (before after : Connection) : Prop :=
  ∃ actions, Stays before after actions ∧ ∀ action ∈ actions, action.Plain

/-- One dispatch, as its record says. -/
structure Dispatches (before after : Connection) (entry : Dispatched) : Prop where
  genuine : entry.Genuine
  source : entry.before = before.inner
  target : entry.after = after.inner
  ctx : after.ctx = before.ctx.extend entry.packets entry.messages
  log : after.log = before.log ++ [.dispatched entry]

/-- Plain actions, and after them at most one dispatch of an event among `raises`. -/
def Once (raises : Event → Prop) (before after : Connection) : Prop :=
  ∃ middle, Reports before middle ∧
    (after = middle ∨ ∃ entry, raises entry.event ∧ Dispatches middle after entry)

/-- Everything logged in between is good. -/
def Logs (good : Action → Prop) (before after : Connection) : Prop :=
  ∃ actions, after.log = before.log ++ actions ∧ ∀ action ∈ actions, good action

variable {connection before middle after : Connection} {event : Event} {raises : Event → Prop}
  {good : Action → Prop}

theorem stays_record (connection : Connection) (action : Action) :
    Stays connection (connection.record action) [action] :=
  ⟨rfl, rfl, rfl⟩

theorem Reports.refl (connection : Connection) : Reports connection connection :=
  ⟨[], ⟨rfl, rfl, (List.append_nil connection.log).symm⟩, List.forall_mem_nil _⟩

theorem reports_record (connection : Connection) {action : Action} (plain : action.Plain) :
    Reports connection (connection.record action) := by
  refine ⟨[action], stays_record connection action, ?_⟩
  intro logged member
  rw [List.mem_singleton] at member
  subst member
  exact plain

theorem Reports.trans (left : Reports before middle) (right : Reports middle after) :
    Reports before after := by
  obtain ⟨earlier, first, firstPlain⟩ := left
  obtain ⟨later, second, secondPlain⟩ := right
  refine ⟨earlier ++ later, ⟨second.inner.trans first.inner, second.ctx.trans first.ctx, ?_⟩, ?_⟩
  · rw [second.log, first.log, List.append_assoc]
  · intro action member
    rcases List.mem_append.mp member with old | new
    · exact firstPlain action old
    · exact secondPlain action new

theorem dispatch_spec {next : Connection} (handled : connection.dispatch event = .ok next) :
    ∃ entry : Dispatched, entry.event = event ∧ Dispatches connection next entry := by
  unfold dispatch at handled
  split at handled
  · rename_i inner ctx computed
    obtain rfl := Except.ok.inj handled
    obtain ⟨genuine, queues⟩ := Dispatched.of_spec computed
    exact ⟨_, rfl, genuine, rfl, rfl, queues, rfl⟩
  · cases handled

/-- A dispatch is a reaction of the machine. -/
theorem Dispatches.reaction {entry : Dispatched} (dispatches : Dispatches before after entry) :
    Reaction (before.inner.storage.beforeDispatch entry.event) before.inner.state entry.event
      after.inner.storage after.inner.state entry.packets entry.messages := by
  have genuine := dispatches.genuine
  rw [Dispatched.Genuine, dispatches.source, dispatches.target] at genuine
  exact genuine

theorem dispatch_ok (connection : Connection) {event : Event}
    (other : ∀ now msg, event ≠ .lData now msg) : ∃ next, connection.dispatch event = .ok next := by
  have fits : ∀ now msg, event = .lData now msg →
      ∃ packet, FmtpPacket.fromMsg msg = .ok packet :=
    fun now msg same => absurd same (other now msg)
  obtain ⟨inner, ctx, handled⟩ := connection.inner.handleWithContext_ok connection.ctx fits
  unfold dispatch
  rw [handled]
  exact ⟨_, rfl⟩

theorem Logs.refl (connection : Connection) : Logs good connection connection :=
  ⟨[], (List.append_nil connection.log).symm, List.forall_mem_nil _⟩

theorem Logs.trans (left : Logs good before middle) (right : Logs good middle after) :
    Logs good before after := by
  obtain ⟨earlier, first, firstGood⟩ := left
  obtain ⟨later, second, secondGood⟩ := right
  refine ⟨earlier ++ later, by rw [second, first, List.append_assoc], ?_⟩
  intro action member
  rcases List.mem_append.mp member with old | new
  · exact firstGood action old
  · exact secondGood action new

theorem Reports.logs (reports : Reports before after)
    (plain : ∀ action : Action, action.Plain → good action) : Logs good before after := by
  obtain ⟨actions, stays, each⟩ := reports
  exact ⟨actions, stays.log, fun action member => plain action (each action member)⟩

theorem logs_record (connection : Connection) {action : Action} (holds : good action) :
    Logs good connection (connection.record action) := by
  refine ⟨[action], rfl, ?_⟩
  intro logged member
  rw [List.mem_singleton] at member
  subst member
  exact holds

/-- What a packet is dispatched as stands for something the peer did. -/
theorem handleRemotePacket_dispatch {bytes : List Byte} {received : Nat} {now : Instant}
    {next : Connection} (handled : connection.handleRemotePacket bytes received now = .ok next) :
    ∃ event, event.Remote = true ∧ connection.dispatch event = .ok next := by
  unfold handleRemotePacket at handled
  split at handled
  · cases handled
  · split at handled
    · cases handled
    · rename_i event translated
      exact ⟨event, Event.fromIncomingPacket_remote translated, handled⟩

theorem Reports.inner (reports : Reports before after) : after.inner = before.inner := by
  obtain ⟨_, stays, _⟩ := reports
  exact stays.inner

theorem Dispatches.logs {entry : Dispatched} (dispatches : Dispatches before after entry)
    (holds : good (.dispatched entry)) : Logs good before after := by
  refine ⟨[.dispatched entry], dispatches.log, ?_⟩
  intro action member
  rw [List.mem_singleton] at member
  subst member
  exact holds

theorem Once.of_reports (reports : Reports before after) : Once raises before after :=
  ⟨after, reports, Or.inl rfl⟩

theorem Once.refl (connection : Connection) : Once raises connection connection :=
  .of_reports (.refl connection)

end Connection

/-! ### The race -/

namespace Loop

/-- No packet is to be transmitted: there is no socket or the queue is empty. -/
def Drained (loop : Loop) : Prop :=
  loop.socket = none ∨ loop.connection.ctx.sendQueue = []

/-- A branch is selected when it is ready and the branches before it are not. -/
def Chosen (loop : Loop) (offer : Offer) : Branch → Prop
  | .transmit packet => loop.socket ≠ none ∧ loop.connection.ctx.sendQueue.head? = some packet
  | .command received => loop.Drained ∧ offer.command = some received
  | .receive msg =>
    loop.Drained ∧ offer.command = none ∧ loop.connection.ctx.recvQueue.head? = some msg
  | .machine turned =>
    loop.Drained ∧ offer.command = none ∧ loop.connection.ctx.recvQueue = [] ∧
      turn loop.connection.inner offer = some turned
  | .read received =>
    loop.Drained ∧ offer.command = none ∧ loop.connection.ctx.recvQueue = [] ∧
      turn loop.connection.inner offer = none ∧ loop.socket ≠ none ∧ offer.read = some received

theorem select_chosen {loop : Loop} {offer : Offer} {branch : Branch}
    (selected : loop.select offer = some branch) : loop.Chosen offer branch := by
  unfold select at selected
  dsimp only [ConnectionContext.pollTransmit, ConnectionContext.pollReceive] at selected
  split at selected
  · rename_i socket packet socketed front
    obtain rfl := Option.some.inj selected
    exact ⟨by rw [socketed]; exact Option.some_ne_none socket, front⟩
  · rename_i idle
    have drained : loop.Drained := by
      cases socketed : loop.socket with
      | none => exact Or.inl socketed
      | some socket =>
        refine Or.inr (List.head?_eq_none_iff.mp (Option.eq_none_iff_forall_ne_some.mpr ?_))
        intro packet front
        exact idle socket packet socketed front
    split at selected
    · rename_i received commanded
      obtain rfl := Option.some.inj selected
      exact ⟨drained, commanded⟩
    · rename_i silent
      split at selected
      · rename_i msg front
        obtain rfl := Option.some.inj selected
        exact ⟨drained, silent, front⟩
      · rename_i empty
        rw [List.head?_eq_none_iff] at empty
        split at selected
        · rename_i turned ready
          obtain rfl := Option.some.inj selected
          exact ⟨drained, silent, empty, ready⟩
        · rename_i sleeping
          split at selected
          · rename_i socket socketed
            obtain ⟨received, given, rfl⟩ := Option.map_eq_some_iff.mp selected
            refine ⟨drained, silent, empty, sleeping, ?_, given⟩
            rw [socketed]
            exact Option.some_ne_none socket
          · cases selected

end Loop

/-! ### The arms -/

/-- The events a branch can raise outside the arm of Idle. -/
def Branch.Raises (now : Instant) : Branch → Event → Prop
  | .transmit _, event => event = .rDisconnect
  | .command received, event =>
    ∃ command, received = some command ∧ event = commandEvent now command
  | .receive _, _ => False
  | .machine turn, event => turn = .raised event
  | .read _, event => event.Remote = true

namespace Loop

variable (loop : Loop) (offer : Offer)

theorem dispatch_once {raises : Event → Prop} {event : Event} (raised : raises event) :
    Connection.Once raises loop.connection (loop.dispatch event).connection := by
  unfold dispatch
  cases handled : loop.connection.dispatch event with
  | ok connection =>
    obtain ⟨entry, rfl, dispatches⟩ := Connection.dispatch_spec handled
    exact ⟨loop.connection, .refl _, Or.inr ⟨entry, raised, dispatches⟩⟩
  | error fault => exact .refl loop.connection

theorem leave_reports : Connection.Reports loop.connection (loop.leave offer).connection := by
  unfold leave
  cases loop.socket with
  | none => exact .refl _
  | some socket =>
    have shut : (Action.shut socket).Plain := trivial
    cases offer.shutdown with
    | none => exact Connection.reports_record _ shut
    | some text => exact Connection.reports_record _ shut

theorem sendPacket_once (packet : FmtpPacket) :
    Connection.Once (· = .rDisconnect) loop.connection
      (loop.sendPacket offer packet).connection := by
  unfold sendPacket
  cases loop.socket with
  | none => exact .refl _
  | some socket =>
    have plain : ∀ bytes, (Action.wrote socket packet bytes).Plain := fun _ => trivial
    cases offer.write with
    | some accepted => exact .of_reports (Connection.reports_record _ (plain _))
    | none =>
      let failed := loop.record (.wrote socket packet [])
      have once : Connection.Once (· = .rDisconnect) failed.connection
          (failed.dispatch .rDisconnect).connection := failed.dispatch_once rfl
      obtain ⟨middle, reports, ending⟩ := once
      exact ⟨middle, (Connection.reports_record _ (plain [])).trans reports, ending⟩

theorem readArm_once (received : Option Chunk) :
    Connection.Once (·.Remote = true) loop.connection
      (loop.readArm offer received).connection := by
  unfold readArm
  cases received with
  | none => exact loop.dispatch_once rfl
  | some chunk =>
    dsimp only
    cases handled : loop.connection.handleRemotePacket (loop.buffer.fill chunk).1 chunk.1.length
        offer.clock with
    | error fault => exact .refl _
    | ok connection =>
      obtain ⟨event, remote, dispatched⟩ := Connection.handleRemotePacket_dispatch handled
      obtain ⟨entry, rfl, dispatches⟩ := Connection.dispatch_spec dispatched
      exact ⟨loop.connection, .refl _, Or.inr ⟨entry, remote, dispatches⟩⟩

/-- Every arm but those of a received message and of Idle makes at most one dispatch. -/
theorem arm_once {branch : Branch} (other : ∀ msg, branch ≠ .receive msg)
    (busy : branch ≠ .machine .idle) :
    Connection.Once (branch.Raises offer.clock) loop.connection
      (loop.arm offer branch).connection := by
  cases branch with
  | transmit packet => exact loop.sendPacket_once offer packet
  | command received =>
    cases received with
    | none => exact .of_reports (loop.leave_reports offer)
    | some command => exact loop.dispatch_once ⟨command, rfl, rfl⟩
  | receive msg => exact absurd rfl (other msg)
  | machine turn =>
    cases turn with
    | idle => exact absurd rfl busy
    | failed text => exact .of_reports (loop.leave_reports offer)
    | slept => exact .refl _
    | raised event => exact loop.dispatch_once rfl
  | read received => exact loop.readArm_once offer received

/-! ### The arm of Idle -/

/-- What a dispatch keeps, and what a socket that is opened or shut down keeps. -/
structure Kept (invariant : Connection → Prop) : Prop where
  dispatch : ∀ {before after : Connection} {event : Event}, invariant before →
    before.dispatch event = .ok after → invariant after
  connected : ∀ {connection : Connection} (socket : Nat) (address : SocketAddr),
    invariant connection → invariant (connection.record (.connected socket address))
  shut : ∀ {connection : Connection} (socket : Nat), invariant connection →
    invariant (connection.record (.shut socket))

namespace Kept

variable {invariant : Connection → Prop} {before after : Connection} {loop : Loop} {offer : Offer}

theorem dialAll (kept : Kept invariant) {key : String} {dial : Nat → Option Instant}
    {socket count : Nat} {addresses : List SocketAddr} {answer : Outcome (SocketAddr × Nat)}
    (holds : invariant before)
    (dialled : before.dialAll key dial socket addresses count = .ok (after, answer)) :
    invariant after := by
  induction addresses generalizing before count with
  | nil =>
    obtain ⟨rfl, _⟩ := Prod.mk.inj (Except.ok.inj dialled)
    exact holds
  | cons address rest inductionHypothesis =>
    unfold Connection.dialAll at dialled
    split at dialled
    · cases dialled
    · rename_i ready setUp
      have prepared := kept.dispatch holds setUp
      split at dialled
      · split at dialled
        · cases dialled
        · rename_i idle disconnected
          exact inductionHypothesis (kept.dispatch prepared disconnected) dialled
      · split at dialled
        · cases dialled
        · rename_i opened answered
          obtain ⟨rfl, _⟩ := Prod.mk.inj (Except.ok.inj dialled)
          exact kept.dispatch (kept.connected socket address prepared) answered

theorem leave (kept : Kept invariant) (holds : invariant loop.connection) :
    invariant (loop.leave offer).connection := by
  unfold Loop.leave
  cases loop.socket with
  | none => exact holds
  | some socket =>
    cases offer.shutdown with
    | none => exact kept.shut socket holds
    | some text => exact kept.shut socket holds

theorem reconnect (kept : Kept invariant) {id : String} {otherwise : Loop → Loop}
    (holds : invariant loop.connection)
    (keeps : ∀ loop : Loop, invariant loop.connection → invariant (otherwise loop).connection) :
    invariant (loop.reconnect offer id otherwise).connection := by
  have connect {connection : Connection} {answer : Outcome (SocketAddr × Nat)}
      (dialled : loop.connection.connect id offer.dial loop.sockets = .ok (connection, answer)) :
      invariant connection := by
    unfold Connection.connect at dialled
    split at dialled
    · obtain ⟨rfl, _⟩ := Prod.mk.inj (Except.ok.inj dialled)
      exact holds
    · exact kept.dialAll holds dialled
  unfold Loop.reconnect
  split
  · exact holds
  · rename_i connection _ dialled
    exact connect dialled
  · rename_i connection _ dialled
    exact keeps { loop with connection } (connect dialled)

theorem idleArm (kept : Kept invariant) (holds : invariant loop.connection) :
    invariant (loop.idleArm offer).connection := by
  unfold Loop.idleArm
  cases loop.connection.inner.storage.id with
  | none => exact kept.leave holds
  | some id =>
    cases loop.socket with
    | none =>
      refine kept.reconnect holds fun loop holds => ?_
      cases loop.retryTimer id with
      | none => exact kept.leave holds
      | some timer => exact holds
    | some socket =>
      dsimp only
      cases loop.retryTimer id with
      | none => exact kept.leave holds
      | some timer =>
        have shut : invariant (loop.record (.shut socket)).connection := kept.shut socket holds
        cases offer.shutdown with
        | none => exact kept.reconnect shut fun _ holds => holds
        | some text => exact shut

end Kept

/-! ### The reports -/

theorem send_reports {event : ConnectionEvent} (plain : (Action.sent event).Plain) :
    Connection.Reports loop.connection (loop.send offer event).connection := by
  unfold send
  split
  · exact Connection.reports_record loop.connection plain
  · exact .refl loop.connection

theorem reportId_reports :
    Connection.Reports loop.connection (loop.reportId offer).connection := by
  unfold reportId
  split
  · rename_i id _ _
    have plain : (Action.sent (.connectionIdDetermined id)).Plain := trivial
    exact send_reports { loop with id := some id } offer plain
  · exact .refl loop.connection

theorem reportState_reports :
    Connection.Reports loop.connection (loop.reportState offer).connection := by
  unfold reportState
  split
  · exact .refl loop.connection
  · have plain : (Action.sent (.stateChanged loop.connection.inner.state)).Plain := trivial
    exact send_reports { loop with state := loop.connection.inner.state } offer plain

theorem andThen_reports (next : Loop → Loop)
    (reports : Connection.Reports loop.connection (next loop).connection) :
    Connection.Reports loop.connection (loop.andThen next).connection := by
  unfold andThen
  split
  · exact reports
  · exact .refl loop.connection

theorem send_socket (event : ConnectionEvent) : (loop.send offer event).socket = loop.socket := by
  unfold send
  split <;> rfl

theorem reportId_socket : (loop.reportId offer).socket = loop.socket := by
  unfold reportId
  split
  · exact send_socket _ offer _
  · rfl

theorem reportState_socket : (loop.reportState offer).socket = loop.socket := by
  unfold reportState
  split
  · rfl
  · exact send_socket _ offer _

theorem andThen_socket (next : Loop → Loop) (same : (next loop).socket = loop.socket) :
    (loop.andThen next).socket = loop.socket := by
  unfold andThen
  split
  · exact same
  · rfl

/-- The reports leave the socket that the arm left. -/
theorem iterate_socket {next : Loop} {branch : Branch} (selected : loop.select offer = some branch)
    (move : loop.iterate offer = some next) :
    next.socket = (loop.pop.arm offer branch).socket := by
  unfold iterate at move
  split at move
  · cases move
  · rw [selected] at move
    obtain rfl := Option.some.inj move
    exact (andThen_socket _ _ (reportState_socket _ offer)).trans
      (andThen_socket _ _ (reportId_socket _ offer))

/-- An iteration is the selected arm on the popped queues, followed by plain reports. -/
theorem iterate_spec {next : Loop} (move : loop.iterate offer = some next) :
    loop.result = none ∧ ∃ branch, loop.select offer = some branch ∧
      Connection.Reports (loop.pop.arm offer branch).connection next.connection := by
  unfold iterate at move
  cases ended : loop.result with
  | some result =>
    rw [ended] at move
    cases move
  | none =>
    rw [ended] at move
    obtain ⟨branch, selected, rfl⟩ := Option.map_eq_some_iff.mp move
    refine ⟨rfl, branch, selected, ?_⟩
    have first := (loop.pop.arm offer branch).andThen_reports (·.reportId offer)
      ((loop.pop.arm offer branch).reportId_reports offer)
    exact first.trans (andThen_reports _ (·.reportState offer) (reportState_reports _ offer))

/-- One dispatch, of an event among `raises`; where it is good, so is everything logged. -/
def Reacts (good : Action → Prop) (raises : Event → Prop) (loop next : Loop) : Prop :=
  ∃ entry : Dispatched, raises entry.event ∧
    Reaction (loop.connection.inner.storage.beforeDispatch entry.event)
      loop.connection.inner.state entry.event next.connection.inner.storage
      next.connection.inner.state entry.packets entry.messages ∧
    (good (.dispatched entry) → Connection.Logs good loop.connection next.connection)

/-- Outside the arm of Idle, an iteration leaves the machine alone or makes one dispatch of an
event that the selected branch raises; whatever else it logs is outward. -/
theorem iterate_cases {good : Action → Prop} (outward : ∀ action : Action, action.Outward →
    good action) {next : Loop} {branch : Branch} (move : loop.iterate offer = some next)
    (selected : loop.select offer = some branch) (busy : branch ≠ .machine .idle) :
    (next.connection.inner = loop.connection.inner ∧
      Connection.Logs good loop.connection next.connection) ∨
    Reacts good (branch.Raises offer.clock) loop next := by
  obtain ⟨_, branch', selected', reports⟩ := loop.iterate_spec offer move
  obtain rfl := Option.some.inj (selected.symm.trans selected')
  have plain : ∀ action : Action, action.Plain → good action :=
    fun action plain => outward action plain.outward
  have after := reports.logs plain
  by_cases received : ∃ msg, branch = .receive msg
  · obtain ⟨msg, rfl⟩ := received
    refine Or.inl ?_
    have arm : loop.pop.arm offer (.receive msg) =
        if offer.listening (.dataReceived msg) then loop.pop.record (.sent (.dataReceived msg))
        else loop.pop.leave offer := rfl
    rw [reports.inner]
    rw [arm] at after ⊢
    split at after
    · rename_i listening
      rw [if_pos listening]
      have sent : good (.sent (.dataReceived msg)) := outward _ trivial
      exact ⟨rfl, (Connection.logs_record loop.pop.connection sent).trans after⟩
    · rename_i closed
      rw [if_neg closed]
      have left := loop.pop.leave_reports offer
      exact ⟨left.inner, (left.logs plain).trans after⟩
  · have other : ∀ msg, branch ≠ .receive msg := fun msg same => received ⟨msg, same⟩
    obtain ⟨middle, before, same | ⟨entry, raised, dispatches⟩⟩ :=
      loop.pop.arm_once offer other busy
    · refine Or.inl ?_
      rw [reports.inner, same]
      rw [same] at after
      exact ⟨before.inner, (before.logs plain).trans after⟩
    · refine Or.inr ⟨entry, raised, ?_, ?_⟩
      · have reaction := dispatches.reaction
        rw [before.inner] at reaction
        rw [reports.inner]
        exact reaction
      · intro holds
        exact ((before.logs plain).trans (dispatches.logs holds)).trans after

/-- Where the selected arm is the dispatch of an event without data, the event is dispatched. -/
theorem iterate_dispatch {good : Action → Prop} (outward : ∀ action : Action, action.Outward →
    good action) {next : Loop} {branch : Branch} {event : Event}
    (move : loop.iterate offer = some next) (selected : loop.select offer = some branch)
    (arm : loop.pop.arm offer branch = loop.pop.dispatch event)
    (small : ∀ now msg, event ≠ .lData now msg) : Reacts good (· = event) loop next := by
  obtain ⟨_, branch', selected', reports⟩ := loop.iterate_spec offer move
  obtain rfl := Option.some.inj (selected.symm.trans selected')
  have after := reports.logs fun action plain => outward action plain.outward
  obtain ⟨connection, handled⟩ := loop.pop.connection.dispatch_ok small
  have machine : (loop.pop.arm offer branch).connection = connection := by
    rw [arm, dispatch, handled]
  obtain ⟨entry, raised, dispatches⟩ := Connection.dispatch_spec handled
  have reaction := dispatches.reaction
  rw [machine] at reports after
  refine ⟨entry, raised, ?_, fun holds => (dispatches.logs holds).trans after⟩
  rw [reports.inner]
  exact reaction

/-- A command that carries no data is dispatched. -/
theorem iterate_command {good : Action → Prop} (outward : ∀ action : Action, action.Outward →
    good action) {next : Loop} {command : UserCommand} (other : ∀ msg, command ≠ .data msg)
    (move : loop.iterate offer = some next)
    (selected : loop.select offer = some (.command (some command))) :
    Reacts good (· = commandEvent offer.clock command) loop next := by
  refine loop.iterate_dispatch offer outward move selected rfl fun now msg same => ?_
  cases command with
  | data msg => exact other msg rfl
  | setup | disconnect | shutdown | startup => cases same

/-! ### What every iteration keeps -/

namespace Kept

variable {invariant : Connection → Prop} {loop : Loop} {offer : Offer} {branch : Branch}

theorem loopDispatch (kept : Kept invariant) (holds : invariant loop.connection) (event : Event) :
    invariant (loop.dispatch event).connection := by
  unfold Loop.dispatch
  split
  · rename_i connection handled
    exact kept.dispatch holds handled
  · exact holds

/-- An invariant that the arms' writes and events keep is kept by the arms. -/
theorem arm (kept : Kept invariant)
    (sent : ∀ {connection : Connection} event, invariant connection →
      invariant (connection.record (.sent event)))
    (wrote : ∀ {connection : Connection} packet socket bytes, branch = .transmit packet →
      invariant connection → invariant (connection.record (.wrote socket packet bytes)))
    (holds : invariant loop.connection) : invariant (loop.arm offer branch).connection := by
  cases branch with
  | transmit packet =>
    show invariant (loop.sendPacket offer packet).connection
    unfold Loop.sendPacket
    split
    · exact holds
    · split
      · exact wrote packet _ _ rfl holds
      · refine kept.loopDispatch ?_ .rDisconnect
        exact wrote packet _ _ rfl holds
  | command received =>
    cases received with
    | none => exact kept.leave holds
    | some command => exact kept.loopDispatch holds _
  | receive msg =>
    unfold Loop.arm
    dsimp only
    split
    · exact sent _ holds
    · exact kept.leave holds
  | machine turned =>
    cases turned with
    | idle => exact kept.idleArm holds
    | failed text => exact kept.leave holds
    | slept => exact holds
    | raised event => exact kept.loopDispatch holds event
  | read received =>
    show invariant (loop.readArm offer received).connection
    unfold Loop.readArm
    split
    · exact kept.loopDispatch holds .rDisconnect
    · dsimp only
      split
      · rename_i connection handled
        obtain ⟨event, _, dispatched⟩ := Connection.handleRemotePacket_dispatch handled
        exact kept.dispatch holds dispatched
      · exact holds

theorem send (sent : ∀ {connection : Connection} event, invariant connection →
      invariant (connection.record (.sent event)))
    (holds : invariant loop.connection) (event : ConnectionEvent) :
    invariant (loop.send offer event).connection := by
  unfold Loop.send
  split
  · exact sent event holds
  · exact holds

theorem andThen (holds : invariant loop.connection) (next : Loop → Loop)
    (keeps : invariant (next loop).connection) : invariant (loop.andThen next).connection := by
  unfold Loop.andThen
  split
  · exact keeps
  · exact holds

/-- The reports keep what their events keep. -/
theorem reported (sent : ∀ {connection : Connection} event, invariant connection →
      invariant (connection.record (.sent event)))
    {next : Loop} (selected : loop.select offer = some branch)
    (move : loop.iterate offer = some next)
    (armed : invariant (loop.pop.arm offer branch).connection) : invariant next.connection := by
  have reportId {loop : Loop} (holds : invariant loop.connection) :
      invariant (loop.reportId offer).connection := by
    unfold Loop.reportId
    split
    · rename_i id _ _
      exact @send invariant { loop with id := some id } offer sent holds _
    · exact holds
  have reportState {loop : Loop} (holds : invariant loop.connection) :
      invariant (loop.reportState offer).connection := by
    unfold Loop.reportState
    split
    · exact holds
    · exact @send invariant { loop with state := loop.connection.inner.state } offer sent holds _
  unfold Loop.iterate at move
  split at move
  · cases move
  · rw [selected] at move
    obtain rfl := Option.some.inj move
    have identified := andThen armed (·.reportId offer) (reportId armed)
    exact andThen identified (·.reportState offer) (reportState identified)

/-- What does not depend on the queues, and is kept by all that an iteration logs, is kept by the
iteration. -/
theorem iterate (kept : Kept invariant)
    (unqueued : ∀ {connection : Connection} ctx, invariant connection →
      invariant { connection with ctx })
    (sent : ∀ {connection : Connection} event, invariant connection →
      invariant (connection.record (.sent event)))
    (wrote : ∀ {connection : Connection} packet socket bytes, branch = .transmit packet →
      invariant connection → invariant (connection.record (.wrote socket packet bytes)))
    {next : Loop} (selected : loop.select offer = some branch)
    (move : loop.iterate offer = some next) (holds : invariant loop.connection) :
    invariant next.connection := by
  have popped : invariant loop.pop.connection := unqueued _ holds
  exact reported sent selected move (kept.arm sent wrote popped)

end Kept

/-- Whatever an iteration does, it only adds to the log. -/
theorem iterate_logs {next : Loop} (move : loop.iterate offer = some next) :
    Connection.Logs (fun _ => True) loop.connection next.connection := by
  obtain ⟨_, branch, selected, _⟩ := loop.iterate_spec offer move
  have kept : Kept (Connection.Logs (fun _ => True) loop.connection) := by
    refine ⟨?_, ?_, ?_⟩
    · intro before after event logs handled
      obtain ⟨entry, _, dispatches⟩ := Connection.dispatch_spec handled
      exact logs.trans (dispatches.logs trivial)
    · exact fun socket address logs => logs.trans (Connection.logs_record _ trivial)
    · exact fun socket logs => logs.trans (Connection.logs_record _ trivial)
  exact kept.iterate (fun _ logs => logs)
    (fun _ logs => logs.trans (Connection.logs_record _ trivial))
    (fun _ _ _ _ logs => logs.trans (Connection.logs_record _ trivial)) selected move (.refl _)

/-- No iteration changes the configuration. -/
theorem iterate_config {next : Loop} (move : loop.iterate offer = some next) :
    next.connection.inner.storage.config = loop.connection.inner.storage.config := by
  obtain ⟨_, branch, selected, _⟩ := loop.iterate_spec offer move
  have kept : Kept (fun connection =>
      connection.inner.storage.config = loop.connection.inner.storage.config) := by
    refine ⟨?_, fun _ _ same => same, fun _ same => same⟩
    intro before after event same handled
    obtain ⟨entry, _, dispatches⟩ := Connection.dispatch_spec handled
    rw [dispatches.reaction.config, ConnectionState.beforeDispatch_config, same]
  exact kept.iterate (fun _ same => same) (fun _ same => same) (fun _ _ _ _ same => same) selected
    move rfl

end Loop

end Fmtp.Tokio

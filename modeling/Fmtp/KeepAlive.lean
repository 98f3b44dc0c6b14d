/-
This file proves when two parties keep their association alive. The pair of machines runs against
a clock: every packet under way has the time at which it was queued, and a timer goes off at its
deadline or later. If packets arrive within a lag, heartbeats are sent within a slack of their
deadline, and the configured timers leave room for both, then no identification times out and no
association ends in silence, in any run in which the users do not end it themselves.
-/

import Fmtp.Convergence
import Fmtp.Watchdog
import Mathlib.Algebra.Order.Ring.Nat

open TransitionSystem

namespace Fmtp

/-! ### The pair against a clock -/

/-- The pair at a time, with the times at which the packets under way were queued. -/
structure Clocked where
  pair : Pair
  now : Instant
  sent : Side → List Instant

structure Clocked.Label where
  time : Instant
  label : Fmtp.Label

/-- The event happens at a time. -/
def Event.happensAt (event : Event) (time : Instant) : Bool :=
  match event with
  | .rSetup now | .lStartup now | .lShutdown now | .lData now _ | .trTimeout now | .tsTimeout now
  | .rAccept now | .rIdValid now _ | .rData now _ | .rHeartbeat now | .rShutdown now
  | .rStartup now => now = time
  | .lSetup _ | .lDisconnect | .rDisconnect | .rReject | .rIdInvalid | .tiTimeout => true

def Deed.happensAt (deed : Deed) (time : Instant) : Bool :=
  match deed with
  | .transmit => true
  | .deliver now => now = time
  | .act event => event.happensAt time

/-- A timer does not go off before its deadline. -/
def State.due (state : State) (event : Event) (time : Instant) : Bool :=
  match event, state with
  | .tiTimeout, .idPending ti | .tiTimeout, .acceptPending ti => ti.deadline ≤ time
  | .trTimeout _, .associationPending tr | .trTimeout _, .dataReady tr _ => tr.deadline ≤ time
  | .tsTimeout _, .dataReady _ ts => ts.deadline ≤ time
  | _, _ => true

def Deed.due (deed : Deed) (state : State) (time : Instant) : Bool :=
  match deed with
  | .transmit | .deliver _ => true
  | .act event => state.due event time

/-- The packets of a side that the other side has not read. -/
def Pair.underWay (pair : Pair) (side : Side) : List FmtpPacket :=
  pair.wire side ++ (pair.peer side).ctx.sendQueue

namespace Clocked

/-- The times of what is under way after a deed: what was read is gone, what is new was queued
now. -/
def stamped (clocked : Clocked) (label : Label) (next : Pair) : Side → List Instant :=
  let side := label.label.side
  let fresh := (next.underWay side).length - (clocked.pair.underWay side).length
  let left := match label.label.deed with
    | .deliver _ => (clocked.sent side.other).tail
    | .transmit | .act _ => clocked.sent side.other
  Function.update
    (Function.update clocked.sent side (clocked.sent side ++ List.replicate fresh label.time))
    side.other left

/-- A deed at a time. -/
def step (clocked : Clocked) (label : Label) : Option Clocked :=
  let deed := label.label.deed
  let state := (clocked.pair.peer label.label.side).machine.state
  if clocked.now ≤ label.time ∧ deed.happensAt label.time ∧ deed.due state label.time then
    (clocked.pair.step label.label).map fun next =>
      { pair := next, now := label.time, sent := clocked.stamped label next }
  else none

/-- Both parties are set up, and the client's handshake is queued. -/
def start (pair : Pair) (clientNow serverNow : Instant) : Clocked where
  pair := pair
  now := max clientNow serverNow
  sent
    | .client => [clientNow]
    | .server => []

/-- By the time of a deed no packet has been under way for longer than the lag, and no heartbeat is
late by more than the slack. -/
def timely (lag slack : Duration) (clocked : Clocked) (label : Label) : Bool :=
  let sideTimely (side : Side) : Bool :=
    (clocked.sent side).all (label.time ≤ · + lag) &&
      match (clocked.pair.peer side).machine.state with
      | .dataReady _ ts => label.time ≤ ts.deadline + slack
      | _ => true
  sideTimely .client && sideTimely .server

end Clocked

/-- The user does not end the association. -/
def Label.stays (label : Label) : Bool :=
  match label.deed with
  | .act (.lShutdown _) | .act .lDisconnect => false
  | _ => true

/-- The timers leave room for the lag and the slack: the silence between two heartbeats, an answer
there and back, and the first handshake, which the server is there to read. -/
structure Mirror.Roomy (mirror : Mirror) (lag slack : Duration)
    (clientNow serverNow : Instant) : Prop where
  beats : ∀ side, (mirror.entry side.other).ts + slack + lag < (mirror.entry side).tr
  answers : ∀ side, lag + lag < (mirror.entry side).tr
  identifies : ∀ side, lag + lag < (mirror.entry side).ti
  greets : clientNow + lag < serverNow + mirror.serverTi
  meets : serverNow ≤ clientNow + lag

/-! ### The timers of a move -/

/-- How the calm moves of an identified party or one to be identified set its timers. -/
inductive Ticks (entry : ConnectionConfig) (side : Side) (now : Instant) :
    State → Trigger → State → List Signal → Prop
  | introduced {ti : Ti} (server : side = .server) :
      Ticks entry side now (.idPending ti) (.read .handshake)
        (.acceptPending ⟨now + entry.ti⟩) [.handshake]
  | recognised {ti : Ti} (client : side = .client) :
      Ticks entry side now (.idPending ti) (.read .handshake) (.ready ⟨now + entry.tr⟩) [.accept]
  | accepted {ti : Ti} : Ticks entry side now (.acceptPending ti) (.read .accept)
      (.ready ⟨now + entry.tr⟩) []
  | started {tr : Tr} : Ticks entry side now (.ready tr) .startup
      (.associationPending ⟨now + entry.tr⟩) [.startup]
  | associated {tr : Tr} : Ticks entry side now (.associationPending tr) (.read .startup)
      (.dataReady ⟨now + entry.tr⟩ ⟨now + entry.ts⟩) [.startup]
  | restarted {tr : Tr} : Ticks entry side now (.associationPending tr) .tr
      (.associationPending ⟨now + entry.tr⟩) [.startup]
  | beaten {tr : Tr} {ts : Ts} {trigger : Trigger} {signal : Signal}
      (silent : ∀ read, trigger ≠ .read read) :
      Ticks entry side now (.dataReady tr ts) trigger (.dataReady tr ⟨now + entry.ts⟩) [signal]
  | heard {tr : Tr} {ts : Ts} {signal : Signal} : Ticks entry side now (.dataReady tr ts)
      (.read signal) (.dataReady ⟨now + entry.tr⟩ ts) []

section Ticking

variable {mirror : Mirror} {side : Side} {machine machine' : Connection} {event : Event}
  {trigger : Trigger} {phase' : Phase} {signals : List Signal} {packets : List FmtpPacket}
  {messages : List FmtpMessage} {now : Instant}

/-- A move of an identified machine that goes on sets its timers so. -/
theorem Present.ticks (present : Present mirror side machine)
    (move : Move side machine.phase trigger phase' signals)
    (means : Means (mirror.key side) event trigger) (happens : event.happensAt now = true)
    (reaction : Reaction (machine.storage.beforeDispatch event) machine.state event
      machine'.storage machine'.state packets messages)
    (stays : phase' ≠ .idle) (goes : phase' ≠ .resting)
    (follows : trigger = .read .shutdown → machine.phase ≠ .dataReady) :
    Ticks (mirror.entry side) side now machine.state trigger machine'.state signals := by
  have inside := present.inside
  have entry := present.entry
  have config := present.config
  have server := present.server
  obtain ⟨state, storage⟩ := machine
  obtain ⟨state', storage'⟩ := machine'
  have known : state.needsEntry = true →
      (storage.beforeDispatch event).entry = some (mirror.entry side) := by
    intro needs
    refine entry ?_ event
    rintro ⟨pending, _⟩
    rw [Connection.phase] at pending
    cases state with
    | idPending ti => cases needs
    | ready tr =>
      dsimp only at pending
      split at pending <;> cases pending
    | _ => cases pending
  cases state with
  | idle | connectionPending | error =>
    rcases inside with same | same | open_
    · cases same
    · cases same
    · exact absurd open_ not_false
  | idPending ti =>
    cases move with
    | introduced =>
      have found : storage.config.connections.lookup (mirror.key .server) =
          some (mirror.entry .server) := by
        rw [show storage.config = _ from config]
        exact mirror.found .server
      cases means with
      | read _ time =>
        obtain rfl : time = now := of_decide_eq_true happens
        obtain ⟨_, rfl, _⟩ := reaction.unique (.identifiedClient server found)
        exact .introduced rfl
    | recognised =>
      have known := entry (fun both => Side.noConfusion both.2) event
      cases means with
      | read _ time =>
        obtain rfl : time = now := of_decide_eq_true happens
        obtain ⟨_, rfl, _⟩ := reaction.unique (.identifiedServer server known)
        exact .recognised rfl
    | released => exact absurd rfl stays
    | closed gives => cases gives
    | started ready => rcases ready with same | same <;> cases same
    | withdrawn => exact absurd rfl goes
  | acceptPending ti =>
    cases move with
    | accepted =>
      cases means with
      | read _ time =>
        obtain rfl : time = now := of_decide_eq_true happens
        obtain ⟨_, rfl, _⟩ := reaction.unique (.accepted (known rfl))
        exact .accepted
    | released => exact absurd rfl stays
    | closed gives => cases gives
    | started ready => rcases ready with same | same <;> cases same
    | withdrawn => exact absurd rfl goes
  | ready tr =>
    have ready : ∀ phase, Connection.phase ⟨.ready tr, storage⟩ = phase →
        phase = .starting ∨ phase = .resting := by
      rintro phase rfl
      show (if storage.target = .dataReady then Phase.starting else .resting) = _ ∨ _
      split
      · exact Or.inl rfl
      · exact Or.inr (if_neg ‹_›)
    generalize Connection.phase ⟨.ready tr, storage⟩ = phase at move ready
    specialize ready phase rfl
    cases move with
    | started =>
      cases means with
      | startup time =>
        obtain rfl : time = now := of_decide_eq_true happens
        obtain ⟨_, rfl, _⟩ := reaction.unique (.started (known rfl))
        exact .started
    | released | closed => exact absurd rfl stays
    | withdrawn | ignored => exact absurd rfl goes
    | introduced | recognised | accepted | associated | restarted | kept | sent | received
    | suspended => rcases ready with same | same <;> cases same
  | associationPending tr =>
    cases move with
    | associated =>
      cases means with
      | read _ time =>
        obtain rfl : time = now := of_decide_eq_true happens
        obtain ⟨_, rfl, _⟩ := reaction.unique (.associated (known rfl))
        exact .associated
    | restarted =>
      cases means with
      | tr time =>
        obtain rfl : time = now := of_decide_eq_true happens
        obtain ⟨_, rfl, _⟩ := reaction.unique (.restarted (known rfl))
        exact .restarted
    | released | closed => exact absurd rfl stays
    | started ready => rcases ready with same | same <;> cases same
    | withdrawn => exact absurd rfl goes
  | dataReady tr ts =>
    cases move with
    | kept =>
      cases means with
      | ts time =>
        obtain rfl : time = now := of_decide_eq_true happens
        obtain ⟨_, rfl, _⟩ := reaction.unique (.kept (known rfl))
        exact .beaten fun _ same => Trigger.noConfusion same
    | @sent _ msg =>
      cases means with
      | data time =>
        obtain rfl : time = now := of_decide_eq_true happens
        obtain ⟨_, rfl, _⟩ := reaction.unique (.sent (known rfl) (fromMsg_small msg))
        exact .beaten fun _ same => Trigger.noConfusion same
    | @received _ signal carries =>
      cases means with
      | read _ time =>
        cases signal with
        | handshake | accept | shutdown => exact absurd carries not_false
        | startup =>
          obtain rfl : time = now := of_decide_eq_true happens
          obtain ⟨_, rfl, _⟩ := reaction.unique (.refreshed (known rfl) (Or.inr rfl))
          exact .heard
        | heartbeat =>
          obtain rfl : time = now := of_decide_eq_true happens
          obtain ⟨_, rfl, _⟩ := reaction.unique (.refreshed (known rfl) (Or.inl rfl))
          exact .heard
        | data msg =>
          obtain rfl : time = now := of_decide_eq_true happens
          obtain ⟨_, rfl, _⟩ := reaction.unique (.delivered (known rfl))
          exact .heard
    | suspended => exact absurd rfl (follows rfl)
    | released | closed => exact absurd rfl stays
    | started ready => rcases ready with same | same <;> cases same
    | withdrawn => exact absurd rfl goes

end Ticking

/-! ### The other party -/

namespace Standing

variable {flows : Phase → List Signal → Phase → Prop} {client server : Phase}
  {toServer toClient rest : List Signal}

theorem client_partner (standing : Standing flows client toServer server toClient)
    (open_ : client.Open) (present : server ≠ .idle) :
    server.Open ∨ server = .acceptPending ∧ toServer ≠ [] := by
  cases standing with
  | greeting | answering | clientGone => exact absurd open_ not_false
  | accepting => exact Or.inr ⟨rfl, List.cons_ne_nil _ _⟩
  | talking _ serverOpen => exact Or.inl serverOpen
  | serverGone => exact absurd rfl present

theorem server_partner (standing : Standing flows client toServer server toClient)
    (open_ : server.Open) (present : client ≠ .idle) : client.Open := by
  cases standing with
  | greeting | answering | accepting | serverGone => exact absurd open_ not_false
  | talking clientOpen => exact clientOpen
  | clientGone => exact absurd rfl present

theorem client_greeted
    (standing : Standing flows .idPending toServer server (.handshake :: rest))
    (present : server ≠ .idle) : server = .acceptPending ∧ toServer = [] ∧ rest = [] := by
  cases standing with
  | answering => exact ⟨rfl, rfl, rfl⟩
  | talking clientOpen => exact absurd clientOpen not_false
  | serverGone => exact absurd rfl present

theorem server_greeted
    (standing : Standing flows client (.handshake :: rest) .idPending toClient)
    (present : client ≠ .idle) : client = .idPending ∧ toClient = [] ∧ rest = [] := by
  cases standing with
  | greeting => exact ⟨rfl, rfl, rfl⟩
  | talking _ serverOpen => exact absurd serverOpen not_false
  | clientGone => exact absurd rfl present

theorem server_accepted
    (standing : Standing flows client (.accept :: rest) .acceptPending toClient)
    (present : client ≠ .idle) : client.Open := by
  cases standing with
  | accepting open_ => exact open_
  | talking _ serverOpen => exact absurd serverOpen not_false
  | clientGone => exact absurd rfl present

theorem client_accepting (standing : Standing flows .acceptPending toServer server toClient) :
    server = .idle := by
  cases standing with
  | accepting open_ | talking open_ => exact absurd open_ not_false
  | serverGone => rfl

/-- Whoever sends a startup is active. -/
theorem active_of_opening {sender : Phase} (opening : Opening sender (.startup :: rest))
    (present : sender ≠ .idle) : sender.Active := by
  cases sender with
  | associationPending => exact Or.inl rfl
  | dataReady => exact Or.inr rfl
  | idle => exact absurd rfl present
  | connectionPending | idPending | acceptPending | starting | resting | error => cases opening

theorem client_answered
    (standing : Standing Strict .associationPending toServer server (.startup :: rest))
    (present : server ≠ .idle) : server.Active := by
  cases standing with
  | talking _ _ _ back => exact active_of_opening back present
  | serverGone => exact absurd rfl present

theorem server_answered
    (standing : Standing Strict client (.startup :: rest) .associationPending toClient)
    (present : client ≠ .idle) : client.Active := by
  cases standing with
  | talking _ _ forth => exact active_of_opening forth present
  | clientGone => exact absurd rfl present

end Standing

namespace Session.Configured

variable {session : Session} (configured : session.Configured Strict)
  (present : ∀ side, session.phase side ≠ .idle) {side : Side} {rest : List Signal}

include configured present

theorem partner (open_ : (session.phase side).Open) :
    (session.phase side.other).Open ∨
      session.phase side.other = .acceptPending ∧ session.path side ≠ [] := by
  cases side with
  | client => exact Standing.client_partner configured open_ (present .server)
  | server => exact Or.inl (Standing.server_partner configured open_ (present .client))

/-- The greeting and its answer are alone on the way. -/
theorem greeted (pending : session.phase side = .idPending)
    (front : session.path side.other = .handshake :: rest) :
    session.phase side.other = (if side = .server then .idPending else .acceptPending) ∧
      session.path side = [] ∧ rest = [] := by
  unfold Session.Configured at configured
  cases side with
  | client =>
    rw [pending, show session.path .server = _ from front] at configured
    exact configured.client_greeted (present .server)
  | server =>
    rw [pending, show session.path .client = _ from front] at configured
    exact configured.server_greeted (present .client)

theorem accepted (accepting : session.phase side = .acceptPending)
    (front : session.path side.other = .accept :: rest) : (session.phase side.other).Open := by
  unfold Session.Configured at configured
  cases side with
  | client =>
    rw [accepting] at configured
    exact absurd configured.client_accepting (present .server)
  | server =>
    rw [accepting, show session.path .client = _ from front] at configured
    exact configured.server_accepted (present .client)

omit present in
/-- Nobody rests in a strict session. -/
theorem ne_resting (side : Side) : session.phase side ≠ .resting := by
  intro resting
  have open_ : (session.phase side).Open := by
    rw [resting]
    trivial
  have flow : ∃ sender, Strict sender (session.path side.other) (session.phase side) := by
    cases side with
    | client => exact Standing.client_flow configured open_
    | server => exact Standing.server_flow configured open_
  obtain ⟨_, flow⟩ := flow
  rw [resting] at flow
  exact flow

theorem answered (associating : session.phase side = .associationPending)
    (front : session.path side.other = .startup :: rest) : (session.phase side.other).Active := by
  unfold Session.Configured at configured
  cases side with
  | client =>
    rw [associating, show session.path .server = _ from front] at configured
    exact configured.client_answered (present .server)
  | server =>
    rw [associating, show session.path .client = _ from front] at configured
    exact configured.server_answered (present .client)

end Session.Configured

/-! ### A party that is waited for in time -/

section Watching

open Watchdog

/-- By when a party sends next: its heartbeat, or its answer to the packet that it reads next. -/
def State.sendsBy (lag slack : Duration) (state : State) (incoming : List Instant) :
    Option Instant :=
  match state with
  | .dataReady _ ts => some (ts.deadline + slack)
  | .idPending _ | .associationPending _ => incoming.head?.map (· + lag)
  | .idle | .connectionPending | .acceptPending _ | .ready _ | .error => none

/-- A party that would give up hears from the other one before. In DataReady every packet that it
reads puts the end off by a span. -/
def Watch (lag slack span : Duration) (now : Instant) (mine theirs : State)
    (incoming outgoing : List Instant) : Prop :=
  match mine with
  | .idPending ti | .acceptPending ti =>
    Awaits lag ti.deadline incoming (theirs.sendsBy lag slack outgoing)
  | .dataReady tr _ => tr.deadline ≤ now + span ∧
    ∃ next, theirs.sendsBy lag slack outgoing = some next ∧
      Safe lag span tr.deadline incoming next
  | .idle | .connectionPending | .ready _ | .associationPending _ | .error => True

/-- When a party gives up. -/
def State.expiry : State → Option Instant
  | .idPending ti | .acceptPending ti => some ti.deadline
  | .dataReady tr _ => some tr.deadline
  | .idle | .connectionPending | .ready _ | .associationPending _ | .error => none

variable {lag slack span : Duration} {now time : Instant} {mine mine' theirs : State}
  {incoming outgoing : List Instant}

/-- No packet to a party is late, nor is its heartbeat. -/
structure OnTime (lag slack : Duration) (time : Instant) (state : State)
    (incoming : List Instant) : Prop where
  arrives : ∀ stamp ∈ incoming, time ≤ stamp + lag
  beats : ∀ tr ts, state = .dataReady tr ts → time ≤ ts.deadline + slack

theorem OnTime.sends (onTime : OnTime lag slack time theirs outgoing) :
    ∀ next ∈ theirs.sendsBy lag slack outgoing, time ≤ next := by
  intro next member
  have answers (arrives : outgoing.head?.map (· + lag) = some next) : time ≤ next := by
    obtain ⟨stamp, head, rfl⟩ := Option.map_eq_some_iff.mp arrives
    exact onTime.arrives stamp (List.mem_of_head? head)
  cases theirs with
  | dataReady tr ts =>
    obtain rfl := Option.some.inj member
    exact onTime.beats tr ts rfl
  | idPending | associationPending => exact answers member
  | idle | connectionPending | acceptPending | ready | error => cases member

/-- A party that is watched has not given up. -/
theorem Watch.early (watch : Watch lag slack span now mine theirs incoming outgoing)
    (arrives : ∀ stamp ∈ incoming, time ≤ stamp + lag)
    (onTime : OnTime lag slack time theirs outgoing) :
    ∀ expiry ∈ mine.expiry, time < expiry := by
  intro expiry member
  cases mine with
  | idPending | acceptPending =>
    obtain rfl := Option.some.inj member
    exact Awaits.early watch (Nat.zero_le lag) arrives onTime.sends
  | dataReady tr ts =>
    obtain rfl := Option.some.inj member
    obtain ⟨_, next, sends, safe⟩ := watch
    have last := onTime.sends
    rw [sends] at last
    exact safe.awaits.early (Nat.zero_le lag) arrives last
  | idle | connectionPending | ready | associationPending | error => cases member

/-- Time passes. -/
theorem Watch.wait (watch : Watch lag slack span now mine theirs incoming outgoing)
    (later : now ≤ time) : Watch lag slack span time mine theirs incoming outgoing := by
  cases mine with
  | dataReady tr ts =>
    obtain ⟨set, safe⟩ := watch
    exact ⟨set.trans (Nat.add_le_add_right later span), safe⟩
  | idle | connectionPending | idPending | acceptPending | ready | associationPending | error =>
    exact watch

end Watching

/-! ### The moves of an undisturbed pair -/

/-- What a side does in a step that is not a transmission. -/
structure Moves (mirror : Mirror) (pair : Pair) (session : Session) (label : Label) (pair' : Pair)
    (trigger : Trigger) (signals : List Signal) (session' : Session) : Prop where
  undisturbed : Undisturbed mirror pair' session'
  phase : ∀ side, side ≠ label.side → session'.phase side = session.phase side
  path : session'.path label.side = session.path label.side ++ signals
  takes : trigger.Takes (session.path label.side.other) (session'.path label.side.other)
  reads : (∃ now, label.deed = .deliver now) ↔ ∃ signal, trigger = .read signal
  ticks : ∀ time, label.deed.happensAt time = true →
    Ticks (mirror.entry label.side) label.side time (pair.peer label.side).machine.state trigger
      (pair'.peer label.side).machine.state signals

/-- A calm step that is not a transmission is a move of an identified party, or of one to be
identified. -/
theorem Undisturbed.moves {mirror : Mirror} {pair pair' : Pair} {session : Session}
    {label : Label} (undisturbed : Undisturbed mirror pair session)
    (calm : pair.calm label = true) (move : pair.step label = some pair')
    (other : label.deed ≠ .transmit) :
    ∃ trigger signals session', Moves mirror pair session label pair' trigger signals session' := by
  obtain ⟨represents, configured, strict, accounted, present⟩ := undisturbed
  have clear := represents.clear_of_strict configured strict move
  obtain ⟨side, deed⟩ := label
  have inside := (represents.settled side).resolve_left fun idle =>
    present side ((represents.phase side).trans idle)
  -- A move of the session that is calm leaves it undisturbed, and the machine reacts so.
  have moved : ∀ event trigger phase' signals rest packets messages,
      Means (mirror.key side) event trigger →
      deed.Prompts (mirror.key side) trigger →
      (∀ time, deed.happensAt time = true → event.happensAt time = true) →
      Move side (session.phase side) trigger phase' signals →
      trigger.Takes (session.path side.other) rest →
      ((∃ now, deed = .deliver now) ↔ ∃ signal, trigger = .read signal) →
      Reaction ((pair.peer side).machine.storage.beforeDispatch event)
        (pair.peer side).machine.state event (pair'.peer side).machine.storage
        (pair'.peer side).machine.state packets messages →
      Represents mirror pair' (session.advance side trigger phase' signals rest) →
      ∃ trigger signals session',
        Moves mirror pair session ⟨side, deed⟩ pair' trigger signals session' := by
    intro event trigger phase' signals rest packets messages means prompts happens moves takes
      reads reaction represents'
    have quiet := Undisturbed.calm represents calm prompts
    have goes : trigger ≠ .shutdown := by
      rintro rfl
      exact quiet.elim
    have step : session.Step side trigger (session.advance side trigger phase' signals rest) :=
      ⟨phase', signals, rest, moves, takes, rfl⟩
    have strict' := strict.step admits_strict goes step
    have present' := quiet.step present step
    have mine : (session.advance side trigger phase' signals rest).phase side = phase' :=
      Function.update_self _ _ _
    refine ⟨trigger, signals, _, ⟨represents', configured.step admits_loose trivial step, strict',
      accounted.step step, present'⟩, fun which apart => Function.update_of_ne apart _ _, ?_, ?_,
      reads, fun time at_ => ?_⟩
    · simp only [Session.advance, Function.update_of_ne side.other_ne.symm, Function.update_self]
    · simp only [Session.advance, Function.update_self]
      exact takes
    · rw [represents.phase] at moves
      refine inside.ticks moves means (happens time at_) reaction ?_ ?_ ?_
      · rw [← mine]
        exact present' side
      · rw [← mine]
        exact strict'.ne_resting side
      · rintro rfl
        rw [← represents.phase]
        exact strict.continues present takes
  cases deed with
  | transmit => exact absurd rfl other
  | deliver now =>
    unfold Pair.step at move
    simp only at move
    split at move
    · rename_i packet left reads onWire
      obtain ⟨signal, rest, same, after, collides_iff, event⟩ :=
        represents.incoming now configured reads onWire
      rw [event] at move
      have reading : (session.phase side).Reads := by
        rw [represents.phase]
        exact Connection.reads_iff.mp reads
      obtain ⟨phase', signals, moves⟩ := (configured.reads reading same).resolve_left
        fun collides => clear (collides_iff.mpr collides)
      have means : Means (mirror.key side) (signal.event (mirror.key side) now) (.read signal) :=
        .read signal now
      have represents' := represents.advance means moves left after move
      obtain ⟨machine', packets, messages, reaction, rfl⟩ := Pair.dispatch_cases move
      refine moved _ _ _ _ rest packets messages means ⟨signal, rfl⟩ ?_ moves same
        (iff_of_true ⟨now, rfl⟩ ⟨signal, rfl⟩) ?_ represents'
      · intro time happens
        cases signal <;> exact happens
      · simpa only [Function.update_self] using reaction
    · cases move
  | act event =>
    obtain ⟨trigger, phase', signals, means, silent, moves, represents'⟩ := represents.act move
    have takes : trigger.Takes (session.path side.other) (session.path side.other) := by
      cases trigger with
      | read signal => exact absurd rfl (silent signal)
      | _ => rfl
    have dispatched : pair.dispatch side event = some pair' := by
      unfold Pair.step at move
      simp only at move
      split at move
      · exact move
      · cases move
    obtain ⟨machine', packets, messages, reaction, rfl⟩ := Pair.dispatch_cases dispatched
    refine moved _ _ _ _ _ packets messages means ⟨means, silent⟩ (fun _ happens => happens) moves
      takes (iff_of_false (fun deliver => ?_) fun reads => ?_) ?_ represents'
    · obtain ⟨_, same⟩ := deliver
      cases same
    · obtain ⟨signal, same⟩ := reads
      exact silent signal same
    · simpa only [Function.update_self] using reaction

/-! ### What a move leaves of the watches -/

/-- A party that has sent its startup. -/
def State.Active : State → Prop
  | .associationPending _ | .dataReady _ _ => True
  | .idle | .connectionPending | .idPending _ | .acceptPending _ | .ready _ | .error => False

namespace Connection

variable {machine : Connection}

theorem phase_idPending : machine.phase = .idPending ↔ ∃ ti, machine.state = .idPending ti := by
  unfold phase
  cases machine.state with
  | ready tr =>
    dsimp only
    split <;> simp
  | _ => simp

theorem phase_acceptPending :
    machine.phase = .acceptPending ↔ ∃ ti, machine.state = .acceptPending ti := by
  unfold phase
  cases machine.state with
  | ready tr =>
    dsimp only
    split <;> simp
  | _ => simp

theorem active_of_phase (active : machine.phase.Active) : machine.state.Active := by
  rcases active with same | same
  · obtain ⟨tr, state⟩ := phase_associationPending.mp same
    rw [state]
    trivial
  · obtain ⟨tr, ts, state⟩ := phase_dataReady.mp same
    rw [state]
    trivial

theorem phase_ready {tr : Tr} (state : machine.state = .ready tr) : machine.phase.Open := by
  unfold phase
  rw [state]
  dsimp only
  split <;> trivial

/-- An identified party gives up in DataReady only. -/
theorem expiry_none (open_ : machine.phase.Open) (unready : machine.phase ≠ .dataReady) :
    machine.state.expiry = none := by
  cases state : machine.state with
  | idPending ti =>
    rw [phase_idPending.mpr ⟨ti, state⟩] at open_
    exact absurd open_ not_false
  | acceptPending ti =>
    rw [phase_acceptPending.mpr ⟨ti, state⟩] at open_
    exact absurd open_ not_false
  | dataReady tr ts => exact absurd (phase_dataReady.mpr ⟨tr, ts, state⟩) unready
  | idle | connectionPending | ready | associationPending | error => rfl

end Connection

/-- What is left under way to a party after a trigger. -/
def Trigger.leaves (trigger : Trigger) (incoming : List Instant) : List Instant :=
  match trigger with
  | .read _ => incoming.tail
  | _ => incoming

theorem Trigger.mem_of_leaves {trigger : Trigger} {incoming : List Instant} {stamp : Instant}
    (member : stamp ∈ trigger.leaves incoming) : stamp ∈ incoming := by
  cases trigger with
  | read signal => exact List.mem_of_mem_tail member
  | _ => exact member

theorem Trigger.Takes.length_leaves {trigger : Trigger} {path rest : List Signal}
    {incoming : List Instant} (takes : trigger.Takes path rest)
    (stamped : incoming.length = path.length) :
    (trigger.leaves incoming).length = rest.length := by
  cases trigger with
  | read signal =>
    obtain rfl : path = signal :: rest := takes
    show incoming.tail.length = _
    rw [List.length_tail, stamped]
    rfl
  | _ =>
    obtain rfl : path = rest := takes
    exact stamped

/-- What a party that moves knows of the other one. -/
structure Partner (side : Side) (trigger : Trigger) (mine theirs : State)
    (incoming outgoing : List Instant) : Prop where
  fed : ∀ signal, trigger = .read signal → incoming ≠ []
  greeted : ∀ ti, mine = .idPending ti → trigger = .read .handshake →
    outgoing = [] ∧ incoming.tail = [] ∧
      if side = .server then ∃ ti, theirs = .idPending ti else ∃ ti, theirs = .acceptPending ti
  accepted : ∀ ti, mine = .acceptPending ti → trigger = .read .accept → theirs.expiry = none
  starting : ∀ tr, mine = .ready tr →
    theirs.expiry = none ∨ (∃ ti, theirs = .acceptPending ti) ∧ outgoing ≠ []
  associating : ∀ tr, mine = .associationPending tr →
    (∃ tr ts, theirs = .dataReady tr ts) ∨
      theirs.expiry = none ∨ (∃ ti, theirs = .acceptPending ti) ∧ outgoing ≠ []
  answered : ∀ tr, mine = .associationPending tr → trigger = .read .startup → theirs.Active
  associated : ∀ tr ts, mine = .dataReady tr ts → theirs.Active

section Watches

open Watchdog

variable {side : Side} {entry : ConnectionConfig} {lag slack span : Duration}
  {now time : Instant} {mine mine' theirs : State} {trigger : Trigger} {signals : List Signal}
  {incoming outgoing : List Instant}

/-- The mover is waited for in time. -/
theorem Watch.own (watch : Watch lag slack entry.tr now mine theirs incoming outgoing)
    (ticks : Ticks entry side time mine trigger mine' signals)
    (partner : Partner side trigger mine theirs incoming outgoing) (later : now ≤ time)
    (past : ∀ stamp ∈ incoming, stamp ≤ time) (past' : ∀ stamp ∈ outgoing, stamp ≤ time)
    (beats : ∀ tr ts, theirs = .dataReady tr ts → ts.deadline + slack + lag < time + entry.tr)
    (answers : lag + lag < entry.tr) (identifies : lag + lag < entry.ti) :
    Watch lag slack entry.tr time mine' theirs (trigger.leaves incoming)
      (outgoing ++ List.replicate signals.length time) := by
  cases ticks with
  | recognised | accepted | started | restarted => trivial
  | introduced server =>
    obtain ⟨rfl, empty, theirs'⟩ := partner.greeted _ rfl rfl
    rw [if_pos server] at theirs'
    obtain ⟨ti, rfl⟩ := theirs'
    show Awaits lag (time + entry.ti) incoming.tail (some (time + lag))
    rw [empty]
    show time + lag + lag < time + entry.ti
    rw [Nat.add_assoc]
    exact Nat.add_lt_add_left identifies time
  | associated =>
    refine ⟨le_rfl, ?_⟩
    have active := partner.answered _ rfl rfl
    have spans : lag < entry.tr := (Nat.le_add_right lag lag).trans_lt answers
    have read : ∀ stamp ∈ incoming.tail, stamp ≤ time := fun stamp member =>
      past stamp (List.mem_of_mem_tail member)
    cases theirs with
    | dataReady tr ts => exact ⟨_, rfl, Safe.set read spans (beats tr ts rfl)⟩
    | associationPending tr =>
      have bound : ∃ first, (outgoing ++ [time]).head? = some first ∧ first ≤ time := by
        cases outgoing with
        | nil => exact ⟨time, rfl, le_rfl⟩
        | cons first rest => exact ⟨first, rfl, past' first List.mem_cons_self⟩
      obtain ⟨first, head, sent⟩ := bound
      have again : first + lag + lag < time + entry.tr := by
        rw [Nat.add_assoc]
        exact Nat.add_lt_add_of_le_of_lt sent answers
      refine ⟨first + lag, ?_, Safe.set read spans again⟩
      show (outgoing ++ [time]).head?.map (· + lag) = _
      rw [head]
      rfl
    | idle | connectionPending | idPending | acceptPending | ready | error =>
      exact absurd active not_false
  | beaten silent =>
    obtain ⟨set, next, sends, safe⟩ := watch
    have active := partner.associated _ _ rfl
    have same : trigger.leaves incoming = incoming := by
      cases trigger with
      | read signal => exact absurd rfl (silent signal)
      | _ => rfl
    rw [same]
    refine ⟨set.trans (Nat.add_le_add_right later _), next, ?_, safe⟩
    cases theirs with
    | dataReady tr ts => exact sends
    | associationPending tr =>
      obtain ⟨first, head, rfl⟩ := Option.map_eq_some_iff.mp sends
      show (outgoing ++ _).head?.map (· + lag) = _
      rw [List.head?_append, head]
      rfl
    | idle | connectionPending | idPending | acceptPending | ready | error =>
      exact absurd active not_false
  | heard =>
    obtain ⟨set, next, sends, safe⟩ := watch
    have fed := partner.fed _ rfl
    cases incoming with
    | nil => exact absurd rfl fed
    | cons stamp rest =>
      refine ⟨le_rfl, next, ?_, safe.fed (past stamp List.mem_cons_self) ?_⟩
      · show theirs.sendsBy lag slack (outgoing ++ []) = _
        rw [List.append_nil]
        exact sends
      · exact set.trans (Nat.add_le_add_right later _)

/-- The other party is waited for in time. -/
theorem Watch.other (watch : Watch lag slack span now theirs mine outgoing incoming)
    (ticks : Ticks entry side time mine trigger mine' signals)
    (partner : Partner side trigger mine theirs incoming outgoing) (later : now ≤ time)
    (onTime : OnTime lag slack time mine incoming)
    (beats : entry.ts + slack + lag < span) :
    Watch lag slack span time theirs mine' (outgoing ++ List.replicate signals.length time)
      (trigger.leaves incoming) := by
  have still (queued : outgoing ≠ []) {ti : Ti} {next next' : Option Instant}
      (awaits : Awaits lag ti.deadline outgoing next) (more : List Instant) :
      Awaits lag ti.deadline (outgoing ++ more) next' := by
    cases outgoing with
    | nil => exact absurd rfl queued
    | cons first rest => exact awaits
  have idle (none : theirs.expiry = none) {mine' : State} {incoming outgoing : List Instant} :
      Watch lag slack span time theirs mine' outgoing incoming := by
    cases theirs with
    | idPending | acceptPending | dataReady => cases none
    | idle | connectionPending | ready | associationPending | error => trivial
  have again : ∀ deadline, deadline = time + entry.ts + slack → deadline + lag < time + span := by
    rintro _ rfl
    have sum : time + entry.ts + slack + lag = time + (entry.ts + slack + lag) := by
      simp only [Nat.add_assoc]
    rw [sum]
    exact Nat.add_lt_add_left beats time
  cases ticks with
  | introduced | recognised =>
    obtain ⟨rfl, _, theirs'⟩ := partner.greeted _ rfl rfl
    have fed := partner.fed _ rfl
    have answer {ti : Ti}
        (awaits : Awaits lag ti.deadline [] (incoming.head?.map (· + lag))) :
        time + lag < ti.deadline := by
      cases incoming with
      | nil => exact absurd rfl fed
      | cons first rest =>
        have bound : first + lag + lag < ti.deadline := awaits
        have sent := onTime.arrives first List.mem_cons_self
        exact (Nat.add_le_add_right sent lag).trans_lt bound
    split at theirs'
    · obtain ⟨ti, rfl⟩ := theirs'
      exact answer watch
    · obtain ⟨ti, rfl⟩ := theirs'
      exact answer watch
  | accepted =>
    exact idle (partner.accepted _ rfl rfl)
  | started =>
    rcases partner.starting _ rfl with none | ⟨⟨ti, rfl⟩, queued⟩
    · exact idle none
    · exact still queued watch _
  | restarted =>
    rcases partner.associating _ rfl with ⟨tr, ts, rfl⟩ | none | ⟨⟨ti, rfl⟩, queued⟩
    · obtain ⟨set, next, sends, safe⟩ := watch
      refine ⟨set.trans (Nat.add_le_add_right later _), next, sends, ?_⟩
      exact safe.sends_early (onTime.sends next sends)
    · exact idle none
    · exact still queued watch _
  | associated =>
    rcases partner.associating _ rfl with ⟨tr, ts, rfl⟩ | none | ⟨⟨ti, rfl⟩, queued⟩
    · obtain ⟨set, next, sends, safe⟩ := watch
      refine ⟨set.trans (Nat.add_le_add_right later _), _, rfl, ?_⟩
      exact safe.sends (onTime.sends next sends) (again _ rfl)
    · exact idle none
    · exact still queued watch _
  | beaten =>
    cases theirs with
    | dataReady tr ts =>
      obtain ⟨set, next, sends, safe⟩ := watch
      refine ⟨set.trans (Nat.add_le_add_right later _), _, rfl, ?_⟩
      exact safe.sends (onTime.sends next sends) (again _ rfl)
    | associationPending => trivial
    | idle | connectionPending | idPending | acceptPending | ready | error =>
      exact absurd (partner.associated _ _ rfl) not_false
  | heard =>
    rw [show List.replicate ([] : List Signal).length time = [] from rfl, List.append_nil]
    cases theirs with
    | dataReady tr ts =>
      obtain ⟨set, next, sends, safe⟩ := watch
      exact ⟨set.trans (Nat.add_le_add_right later _), next, sends, safe⟩
    | associationPending => trivial
    | idle | connectionPending | idPending | acceptPending | ready | error =>
      exact absurd (partner.associated _ _ rfl) not_false

end Watches

namespace Ticks

variable {entry : ConnectionConfig} {side : Side} {now : Instant} {mine mine' : State}
  {trigger : Trigger} {signals : List Signal}

theorem active (ticks : Ticks entry side now mine trigger mine' signals) (active : mine.Active) :
    mine'.Active := by
  cases ticks with
  | introduced | recognised | accepted | started => exact absurd active not_false
  | associated | restarted | beaten | heard => trivial

/-- A party in DataReady was there before, or has read a startup. -/
theorem into_dataReady {tr : Tr} {ts : Ts}
    (ticks : Ticks entry side now mine trigger (.dataReady tr ts) signals) :
    (∃ tr ts, mine = .dataReady tr ts) ∨
      (∃ tr, mine = .associationPending tr) ∧ trigger = .read .startup := by
  cases ticks with
  | associated => exact Or.inr ⟨⟨_, rfl⟩, rfl⟩
  | beaten | heard => exact Or.inl ⟨_, _, rfl⟩

/-- A heartbeat is due at most one interval after the last one. -/
theorem beats {tr : Tr} {ts : Ts}
    (ticks : Ticks entry side now mine trigger (.dataReady tr ts) signals)
    (before : ∀ tr ts, mine = .dataReady tr ts → ts.deadline ≤ now + entry.ts) :
    ts.deadline ≤ now + entry.ts := by
  cases ticks with
  | associated | beaten => exact le_rfl
  | heard => exact before _ _ rfl

/-- A heartbeat that is not late stays so. -/
theorem late {slack : Duration} {tr : Tr} {ts : Ts}
    (ticks : Ticks entry side now mine trigger (.dataReady tr ts) signals)
    (before : ∀ tr ts, mine = .dataReady tr ts → now ≤ ts.deadline + slack) :
    now ≤ ts.deadline + slack := by
  cases ticks with
  | associated | beaten => exact (Nat.le_add_right _ _).trans (Nat.le_add_right _ _)
  | heard => exact before _ _ rfl

end Ticks

/-- After the setup both parties wait to be identified. -/
theorem Pair.start_states {mirror : Mirror} {clientId : Option String}
    {clientNow serverNow : Instant} {first : Pair}
    (started : Pair.start mirror clientId clientNow serverNow = some first) :
    (first.peer .client).machine.state = .idPending ⟨clientNow + (mirror.entry .client).ti⟩ ∧
      (first.peer .server).machine.state = .idPending ⟨serverNow + mirror.serverTi⟩ := by
  obtain ⟨client, setUp, started⟩ := Option.bind_eq_some_iff.mp started
  obtain ⟨client', connected, started⟩ := Option.bind_eq_some_iff.mp started
  obtain ⟨server, served, rfl⟩ := Option.map_eq_some_iff.mp started
  obtain ⟨⟨state, storage⟩, packets, messages, reaction, rfl⟩ := Peer.dispatch_cases setUp
  obtain ⟨rfl, rfl, rfl, rfl⟩ := reaction.unique (.setUp (mirror.found .client))
  obtain ⟨⟨state, storage⟩, packets, messages, reaction, rfl⟩ := Peer.dispatch_cases connected
  obtain ⟨rfl, rfl, rfl, rfl⟩ := reaction.unique (.connected (mirror.found .client))
  obtain ⟨⟨state, storage⟩, packets, messages, reaction, rfl⟩ := Peer.dispatch_cases served
  obtain ⟨rfl, rfl, rfl, rfl⟩ := reaction.unique (.served mirror.timed)
  exact ⟨rfl, rfl⟩

/-- A step leaves the machine of the other side alone. -/
theorem Pair.step_other {pair pair' : Pair} {label : Label} (move : pair.step label = some pair') :
    (pair'.peer label.side.other).machine = (pair.peer label.side.other).machine := by
  obtain ⟨side, deed⟩ := label
  unfold step at move
  cases deed with
  | transmit =>
    simp only at move
    split at move
    · cases move
    · obtain rfl := Option.some.inj move
      simp only [Function.update_of_ne side.other_ne]
  | deliver now =>
    simp only at move
    split at move
    · split at move
      · obtain ⟨machine', packets, messages, _, rfl⟩ := dispatch_cases move
        simp only [Function.update_of_ne side.other_ne]
      · cases move
    · cases move
  | act event =>
    simp only at move
    split at move
    · obtain ⟨machine', packets, messages, _, rfl⟩ := dispatch_cases move
      simp only [Function.update_of_ne side.other_ne]
    · cases move

/-- A transmission leaves both machines alone. -/
theorem Pair.step_transmit {pair pair' : Pair} {side : Side}
    (move : pair.step ⟨side, .transmit⟩ = some pair') :
    (pair'.peer side).machine = (pair.peer side).machine := by
  unfold step at move
  simp only at move
  split at move
  · cases move
  · obtain rfl := Option.some.inj move
    simp only [Function.update_self]

/-! ### The pair keeps its watches -/

/-- The pair is undisturbed, knows when its packets were queued, and both parties are watched. -/
structure Kept (mirror : Mirror) (lag slack : Duration) (clocked : Clocked) (session : Session) :
    Prop where
  undisturbed : Undisturbed mirror clocked.pair session
  stamps : ∀ side, (clocked.sent side).length = (session.path side).length
  past : ∀ side, ∀ stamp ∈ clocked.sent side, stamp ≤ clocked.now
  active : ∀ side tr ts, (clocked.pair.peer side).machine.state = .dataReady tr ts →
    (clocked.pair.peer side.other).machine.state.Active
  beats : ∀ side tr ts, (clocked.pair.peer side).machine.state = .dataReady tr ts →
    ts.deadline ≤ clocked.now + (mirror.entry side).ts
  watch : ∀ side, Watch lag slack (mirror.entry side).tr clocked.now
    (clocked.pair.peer side).machine.state (clocked.pair.peer side.other).machine.state
    (clocked.sent side.other) (clocked.sent side)
  onTime : ∀ side, OnTime lag slack clocked.now (clocked.pair.peer side).machine.state
    (clocked.sent side.other)

theorem Clocked.step_cases {clocked next : Clocked} {label : Clocked.Label}
    (move : clocked.step label = some next) :
    clocked.now ≤ label.time ∧ label.label.deed.happensAt label.time = true ∧
      label.label.deed.due (clocked.pair.peer label.label.side).machine.state label.time = true ∧
      ∃ pair, clocked.pair.step label.label = some pair ∧
        next = { pair, now := label.time, sent := clocked.stamped label pair } := by
  unfold Clocked.step at move
  dsimp only at move
  split at move
  · rename_i allowed
    obtain ⟨pair, stepped, rfl⟩ := Option.map_eq_some_iff.mp move
    exact ⟨allowed.1, allowed.2.1, allowed.2.2, pair, stepped, rfl⟩
  · cases move

section Stamps

variable {mirror : Mirror} {clocked : Clocked} {label : Clocked.Label} {pair : Pair}
  {session session' : Session}

theorem Represents.underWay (represents : Represents mirror pair session) (side : Side) :
    (pair.underWay side).length = (session.path side).length := by
  rw [Pair.underWay, represents.path, List.length_map]

/-- What the mover sends is stamped with the time. -/
theorem Clocked.stamped_self (represents : Represents mirror clocked.pair session)
    (represents' : Represents mirror pair session') {signals : List Signal}
    (path : session'.path label.label.side = session.path label.label.side ++ signals) :
    clocked.stamped label pair label.label.side =
      clocked.sent label.label.side ++ List.replicate signals.length label.time := by
  have fresh : (pair.underWay label.label.side).length -
      (clocked.pair.underWay label.label.side).length = signals.length := by
    rw [represents.underWay, represents'.underWay, path, List.length_append,
      Nat.add_sub_cancel_left]
  simp only [stamped, Function.update_of_ne label.label.side.other_ne.symm, Function.update_self,
    fresh]

/-- What the mover reads loses its stamp. -/
theorem Clocked.stamped_other (trigger : Trigger)
    (reads : (∃ now, label.label.deed = .deliver now) ↔ ∃ signal, trigger = .read signal) :
    clocked.stamped label pair label.label.side.other =
      trigger.leaves (clocked.sent label.label.side.other) := by
  simp only [stamped, Function.update_self]
  cases deed : label.label.deed with
  | deliver now =>
    obtain ⟨signal, rfl⟩ := reads.mp ⟨now, deed⟩
    rfl
  | transmit | act =>
    have silent : ∀ signal, trigger ≠ .read signal := by
      rintro signal rfl
      obtain ⟨_, same⟩ := reads.mpr ⟨signal, rfl⟩
      cases deed.symm.trans same
    cases trigger with
    | read signal => exact absurd rfl (silent signal)
    | _ => rfl

end Stamps

theorem Clocked.timely_iff {lag slack : Duration} {clocked : Clocked} {label : Clocked.Label} :
    clocked.timely lag slack label = true ↔ ∀ side, OnTime lag slack label.time
      (clocked.pair.peer side).machine.state (clocked.sent side.other) := by
  have beats (side : Side) : (match (clocked.pair.peer side).machine.state with
      | .dataReady _ ts => decide (label.time ≤ ts.deadline + slack)
      | _ => true) = true ↔ ∀ tr ts, (clocked.pair.peer side).machine.state = .dataReady tr ts →
        label.time ≤ ts.deadline + slack := by
    cases (clocked.pair.peer side).machine.state <;> simp
  unfold timely
  simp only [Bool.and_eq_true, List.all_eq_true, decide_eq_true_iff, beats]
  constructor
  · rintro ⟨⟨clientArrives, clientBeats⟩, serverArrives, serverBeats⟩ (client | server)
    · exact ⟨serverArrives, clientBeats⟩
    · exact ⟨clientArrives, serverBeats⟩
  · intro each
    exact ⟨⟨(each .server).arrives, (each .client).beats⟩, (each .client).arrives,
      (each .server).beats⟩

namespace Kept

variable {mirror : Mirror} {lag slack : Duration} {clocked next : Clocked} {session : Session}
  {label : Clocked.Label}

/-- Nobody has given up by the time of a deed that is on time. -/
theorem early (kept : Kept mirror lag slack clocked session)
    (timely : clocked.timely lag slack label = true) (side : Side) :
    ∀ expiry ∈ (clocked.pair.peer side).machine.state.expiry, label.time < expiry := by
  have onTime := Clocked.timely_iff.mp timely
  have theirs := onTime side.other
  rw [Side.other_other] at theirs
  exact (kept.watch side).early (onTime side).arrives theirs

/-- So nothing ends the session but the user. -/
theorem calm (kept : Kept mirror lag slack clocked session)
    (timely : clocked.timely lag slack label = true) (stays : label.label.stays = true)
    (move : clocked.step label = some next) : clocked.pair.calm label.label = true := by
  obtain ⟨-, -, due, pair, stepped, -⟩ := Clocked.step_cases move
  obtain ⟨time, side, deed⟩ := label
  have early := kept.early timely side
  have present := kept.undisturbed.agreed.alive side.other
  cases deed with
  | transmit | deliver => rfl
  | act event =>
    have allowed : clocked.pair.may side event = true := by
      unfold Pair.step at stepped
      simp only at stepped
      split at stepped
      · rename_i allowed
        exact allowed
      · cases stepped
    unfold Pair.may at allowed
    unfold Deed.due at due
    unfold Pair.calm
    simp only at allowed due early ⊢
    split at allowed
    · cases stays
    · rfl
    · cases stays
    · cases stays
    · rfl
    · rename_i state
      rw [state] at due early
      exact absurd (early _ rfl) (Nat.not_lt.mpr (of_decide_eq_true due))
    · rename_i state
      rw [state] at due early
      exact absurd (early _ rfl) (Nat.not_lt.mpr (of_decide_eq_true due))
    · rename_i state
      rw [state]
    · rename_i state
      rw [state] at due early
      exact absurd (early _ rfl) (Nat.not_lt.mpr (of_decide_eq_true due))
    · rfl
    · exact absurd (of_decide_eq_true allowed).2.1 present.1
    · cases allowed

/-- What the mover knows of the other party. -/
theorem partner (kept : Kept mirror lag slack clocked session) {side : Side} {trigger : Trigger}
    {rest : List Signal} (takes : trigger.Takes (session.path side.other) rest) :
    Partner side trigger (clocked.pair.peer side).machine.state
      (clocked.pair.peer side.other).machine.state (clocked.sent side.other)
      (clocked.sent side) := by
  obtain ⟨⟨represents, _, strict, _, present⟩, stamps, _, active, _, _, _⟩ := kept
  have unsent {side : Side} : clocked.sent side = [] ↔ session.path side = [] := by
    rw [← List.length_eq_zero_iff, stamps, List.length_eq_zero_iff]
  -- An identified party, and the other one is in DataReady, waits for nothing, or for its accept.
  have identified {side : Side} (open_ : (clocked.pair.peer side).machine.phase.Open) :
      (clocked.pair.peer side.other).machine.phase = .dataReady ∨
        (clocked.pair.peer side.other).machine.state.expiry = none ∨
        (∃ ti, (clocked.pair.peer side.other).machine.state = .acceptPending ti) ∧
          clocked.sent side ≠ [] := by
    rw [← represents.phase] at open_
    rcases strict.partner present open_ with other | ⟨accepting, queued⟩
    · rw [represents.phase] at other
      by_cases ready : (clocked.pair.peer side.other).machine.phase = .dataReady
      · exact Or.inl ready
      · exact Or.inr (Or.inl (Connection.expiry_none other ready))
    · rw [represents.phase] at accepting
      exact Or.inr (Or.inr ⟨Connection.phase_acceptPending.mp accepting, unsent.not.mpr queued⟩)
  refine ⟨?_, ?_, ?_, ?_, ?_, ?_, ?_⟩
  · rintro signal rfl
    refine unsent.not.mpr ?_
    rw [show session.path side.other = _ from takes]
    exact List.cons_ne_nil _ _
  · rintro ti state rfl
    have pending := (represents.phase side).trans (Connection.phase_idPending.mpr ⟨ti, state⟩)
    obtain ⟨phase, none, rfl⟩ := strict.greeted present pending takes
    have single : (clocked.sent side.other).length = 1 := by
      rw [stamps, show session.path side.other = _ from takes]
      rfl
    obtain ⟨stamp, only⟩ := List.length_eq_one_iff.mp single
    refine ⟨unsent.mpr none, ?_, ?_⟩
    · rw [only]
      rfl
    · rw [represents.phase] at phase
      split at phase
      · rw [if_pos ‹_›]
        exact Connection.phase_idPending.mp phase
      · rw [if_neg ‹_›]
        exact Connection.phase_acceptPending.mp phase
  · rintro ti state rfl
    have accepting :=
      (represents.phase side).trans (Connection.phase_acceptPending.mpr ⟨ti, state⟩)
    have open_ := strict.accepted present accepting takes
    rw [represents.phase] at open_
    refine Connection.expiry_none open_ fun ready => ?_
    obtain ⟨tr, ts, ready⟩ := Connection.phase_dataReady.mp ready
    have both := active side.other tr ts ready
    rw [Side.other_other, state] at both
    exact both
  · intro tr state
    have open_ : (clocked.pair.peer side).machine.phase.Open := Connection.phase_ready state
    refine (identified open_).resolve_left fun ready => ?_
    obtain ⟨tr, ts, ready⟩ := Connection.phase_dataReady.mp ready
    have both := active side.other tr ts ready
    rw [Side.other_other, state] at both
    exact both
  · intro tr state
    have open_ : (clocked.pair.peer side).machine.phase.Open := by
      rw [Connection.phase_associationPending.mpr ⟨tr, state⟩]
      trivial
    exact (identified open_).imp_left Connection.phase_dataReady.mp
  · rintro tr state rfl
    have associating :=
      (represents.phase side).trans (Connection.phase_associationPending.mpr ⟨tr, state⟩)
    have other := strict.answered present associating takes
    rw [represents.phase] at other
    exact Connection.active_of_phase other
  · exact active side

/-- A packet that moves to the wire changes nothing. -/
theorem transmit (kept : Kept mirror lag slack clocked session) {side : Side} {time : Instant}
    {pair : Pair} (later : clocked.now ≤ time)
    (timely : clocked.timely lag slack ⟨time, ⟨side, .transmit⟩⟩ = true)
    (move : clocked.pair.step ⟨side, .transmit⟩ = some pair) :
    Kept mirror lag slack
      { pair, now := time, sent := clocked.stamped ⟨time, ⟨side, .transmit⟩⟩ pair } session := by
  obtain ⟨⟨represents, configured, strict, accounted, present⟩, stamps, past, active, beats,
    watch, _⟩ := kept
  have represents' := represents.transmit move
  have machine : ∀ which, (pair.peer which).machine = (clocked.pair.peer which).machine := by
    intro which
    rcases side.eq_or_other which with rfl | rfl
    · exact Pair.step_transmit move
    · exact Pair.step_other move
  have sent : clocked.stamped ⟨time, ⟨side, .transmit⟩⟩ pair = clocked.sent := by
    funext which
    rcases side.eq_or_other which with rfl | rfl
    · exact (Clocked.stamped_self represents represents' (List.append_nil _).symm).trans
        (List.append_nil _)
    · exact Clocked.stamped_other .ts (iff_of_false nofun nofun)
  rw [sent]
  refine ⟨⟨represents', configured, strict, accounted, present⟩, stamps, fun which stamp member =>
    (past which stamp member).trans later, ?_, ?_, ?_, ?_⟩
  · simp only [machine]
    exact active
  · intro which tr ts state
    rw [machine] at state
    exact (beats which tr ts state).trans (Nat.add_le_add_right later _)
  · simp only [machine]
    exact fun which => (watch which).wait later
  · simp only [machine]
    exact Clocked.timely_iff.mp timely

/-- Every timely step of two users who stay keeps the watches. -/
theorem step {clientNow serverNow : Instant} (kept : Kept mirror lag slack clocked session)
    (roomy : mirror.Roomy lag slack clientNow serverNow)
    (timely : clocked.timely lag slack label = true) (stays : label.label.stays = true)
    (move : clocked.step label = some next) : ∃ session', Kept mirror lag slack next session' := by
  obtain ⟨later, happens, -, pair, stepped, rfl⟩ := Clocked.step_cases move
  have calm := kept.calm timely stays move
  by_cases transmission : label.label.deed = .transmit
  · obtain ⟨time, side, deed⟩ := label
    obtain rfl := transmission
    exact ⟨session, kept.transmit later timely stepped⟩
  obtain ⟨trigger, signals, session', moves⟩ :=
    kept.undisturbed.moves calm stepped transmission
  have partner := kept.partner moves.takes
  have ticks := moves.ticks label.time happens
  have other := Pair.step_other stepped
  have sent := Clocked.stamped_self kept.undisturbed.represents moves.undisturbed.represents
    moves.path
  have left : clocked.stamped label pair label.label.side.other =
      trigger.leaves (clocked.sent label.label.side.other) :=
    Clocked.stamped_other trigger moves.reads
  have onTime := Clocked.timely_iff.mp timely
  obtain ⟨undisturbed, stamps, past, active, beats, watch, _⟩ := kept
  refine ⟨session', moves.undisturbed, ?_, ?_, ?_, ?_, ?_, ?_⟩
  all_goals intro which
  all_goals rcases label.label.side.eq_or_other which with rfl | rfl
  all_goals dsimp only
  -- The stamps count the packets under way.
  · rw [sent, List.length_append, List.length_replicate, stamps, moves.path, List.length_append]
  · rw [left]
    exact moves.takes.length_leaves (stamps _)
  · intro stamp member
    rw [sent, List.mem_append, List.mem_replicate] at member
    rcases member with before | ⟨_, rfl⟩
    · exact (past _ stamp before).trans later
    · exact le_rfl
  · intro stamp member
    rw [left] at member
    exact (past _ stamp (Trigger.mem_of_leaves member)).trans later
  -- Both parties are active as soon as one is in DataReady.
  · intro tr ts state
    simp only [other]
    rw [state] at ticks
    rcases ticks.into_dataReady with ⟨tr, ts, ready⟩ | ⟨⟨tr, associating⟩, read⟩
    · exact active _ tr ts ready
    · exact partner.answered tr associating read
  · intro tr ts state
    simp only [other] at state
    have mine := active _ tr ts state
    rw [Side.other_other] at mine ⊢
    exact ticks.active mine
  · intro tr ts state
    rw [state] at ticks
    exact ticks.beats fun tr ts before =>
      (beats _ tr ts before).trans (Nat.add_le_add_right later _)
  · intro tr ts state
    simp only [other] at state
    exact (beats _ tr ts state).trans (Nat.add_le_add_right later _)
  -- Both parties are still waited for in time.
  · simp only [other, sent, left]
    refine (watch _).own ticks partner later ?_ ?_ ?_ (roomy.answers _) (roomy.identifies _)
    · exact fun stamp member => (past _ stamp member).trans later
    · exact fun stamp member => (past _ stamp member).trans later
    · intro tr ts state
      have due := (beats _ tr ts state).trans (Nat.add_le_add_right later _)
      calc ts.deadline + slack + lag
          ≤ label.time + (mirror.entry label.label.side.other).ts + slack + lag :=
            Nat.add_le_add_right (Nat.add_le_add_right due slack) lag
        _ = label.time + ((mirror.entry label.label.side.other).ts + slack + lag) := by
            simp only [Nat.add_assoc]
        _ < label.time + (mirror.entry label.label.side).tr :=
            Nat.add_lt_add_left (roomy.beats _) label.time
  · have theirs := watch label.label.side.other
    have room := roomy.beats label.label.side.other
    rw [Side.other_other] at theirs room
    simp only [Side.other_other, other, sent, left]
    exact theirs.other ticks partner later (onTime _) room
  -- What is new is not late.
  · refine ⟨fun stamp member => ?_, fun tr ts state => ?_⟩
    · rw [left] at member
      exact (onTime _).arrives stamp (Trigger.mem_of_leaves member)
    · rw [state] at ticks
      exact ticks.late (onTime _).beats
  · simp only [Side.other_other, other, sent]
    refine ⟨fun stamp member => ?_, (onTime _).beats⟩
    rcases List.mem_append.mp member with before | fresh
    · have theirs := (onTime label.label.side.other).arrives
      rw [Side.other_other] at theirs
      exact theirs stamp before
    · rw [(List.mem_replicate.mp fresh).2]
      exact Nat.le_add_right _ _

/-- Two parties that are kept can always go on in time. -/
theorem goes (kept : Kept mirror lag slack clocked session) :
    ∃ label, clocked.timely lag slack label = true ∧ Label.stays label.label = true ∧
      (clocked.step label).isSome = true := by
  have moves {label : Clocked.Label} (later : clocked.now ≤ label.time)
      (happens : label.label.deed.happensAt label.time = true)
      (due : label.label.deed.due (clocked.pair.peer label.label.side).machine.state
        label.time = true)
      (enabled : (clocked.pair.step label.label).isSome = true) :
      (clocked.step label).isSome = true := by
    unfold Clocked.step
    dsimp only
    rw [if_pos ⟨later, happens, due⟩, Option.isSome_map]
    exact enabled
  by_cases owes : clocked.pair.debt = 0
  · have drained := kept.undisturbed.drained_iff.mp owes
    have ready := fun side => (kept.undisturbed.agreed.associated drained side).1
    have unsent (side : Side) : clocked.sent side = [] := by
      rw [← List.length_eq_zero_iff, kept.stamps, ← kept.undisturbed.represents.underWay,
        Pair.underWay, (drained side).1, (drained side).2.1]
      rfl
    -- The next heartbeat is that of the party whose timer is due first.
    obtain ⟨side, tr, ts, state, first⟩ : ∃ side tr ts,
        (clocked.pair.peer side).machine.state = .dataReady tr ts ∧
          ∀ which tr' ts', (clocked.pair.peer which).machine.state = .dataReady tr' ts' →
            ts.deadline ≤ ts'.deadline := by
      obtain ⟨clientTr, clientTs, client⟩ := ready .client
      obtain ⟨serverTr, serverTs, server⟩ := ready .server
      rcases le_total clientTs.deadline serverTs.deadline with order | order
      · refine ⟨.client, clientTr, clientTs, client, ?_⟩
        rintro (client' | server') tr' ts' state
        · cases client.symm.trans state
          exact le_rfl
        · cases server.symm.trans state
          exact order
      · refine ⟨.server, serverTr, serverTs, server, ?_⟩
        rintro (client' | server') tr' ts' state
        · cases client.symm.trans state
          exact order
        · cases server.symm.trans state
          exact le_rfl
    refine ⟨⟨max clocked.now ts.deadline, ⟨side, .act (.tsTimeout (max clocked.now ts.deadline))⟩⟩,
      Clocked.timely_iff.mpr fun which => ⟨?_, ?_⟩, rfl, moves (le_max_left _ _)
        (decide_eq_true rfl) ?_ ?_⟩
    · rw [unsent]
      exact List.forall_mem_nil _
    · intro tr' ts' state'
      refine max_le ((kept.onTime which).beats tr' ts' state') ?_
      exact (first which tr' ts' state').trans (Nat.le_add_right _ _)
    · simp only [Deed.due, state]
      exact decide_eq_true (le_max_right _ _)
    · refine (kept.undisturbed.represents.enabled kept.undisturbed.configured _).mpr ?_
      simp [Pair.Offers, Pair.may, state]
  · obtain ⟨side, deed, member, _, enabled⟩ := kept.undisturbed.goes owes clocked.now
    have timely : clocked.timely lag slack ⟨clocked.now, ⟨side, deed⟩⟩ = true :=
      Clocked.timely_iff.mpr kept.onTime
    simp only [List.mem_cons, List.not_mem_nil, or_false] at member
    rcases member with rfl | rfl | rfl
    · exact ⟨⟨clocked.now, ⟨side, .transmit⟩⟩, timely, rfl, moves le_rfl rfl rfl enabled⟩
    · exact ⟨⟨clocked.now, ⟨side, .deliver clocked.now⟩⟩, timely, rfl,
        moves le_rfl (decide_eq_true rfl) rfl enabled⟩
    · exact ⟨⟨clocked.now, ⟨side, .act (.lStartup clocked.now)⟩⟩, timely, rfl,
        moves le_rfl (decide_eq_true rfl) rfl enabled⟩

end Kept

/-- Both parties are watched from their setup on. -/
theorem Kept.start {mirror : Mirror} {lag slack : Duration} {clientId : Option String}
    {clientNow serverNow : Instant} {first : Pair}
    (roomy : mirror.Roomy lag slack clientNow serverNow)
    (started : Pair.start mirror clientId clientNow serverNow = some first) :
    Kept mirror lag slack (.start first clientNow serverNow) .fresh := by
  have undisturbed : Undisturbed mirror first .fresh :=
    ⟨.start started, Session.fresh_configured Loose, Session.fresh_configured Strict,
      Session.fresh_accounted, fun side => by cases side <;> nofun⟩
  have state := Pair.start_states started
  refine ⟨undisturbed, ?_, ?_, ?_, ?_, ?_, ?_⟩
  · rintro (client | server) <;> rfl
  · rintro (client | server) stamp member
    · rw [List.mem_singleton.mp member]
      exact le_max_left _ _
    · cases member
  · rintro (client | server) tr ts ready
    · cases state.1.symm.trans ready
    · cases state.2.symm.trans ready
  · rintro (client | server) tr ts ready
    · cases state.1.symm.trans ready
    · cases state.2.symm.trans ready
  · rintro (client | server)
    · show Watch lag slack _ _ (first.peer .client).machine.state
        (first.peer .server).machine.state [] [clientNow]
      rw [state.1, state.2]
      show clientNow + lag + lag < clientNow + (mirror.entry .client).ti
      rw [Nat.add_assoc]
      exact Nat.add_lt_add_left (roomy.identifies .client) clientNow
    · show Watch lag slack _ _ (first.peer .server).machine.state
        (first.peer .client).machine.state [clientNow] []
      rw [state.1, state.2]
      exact roomy.greets
  · rintro (client | server)
    · refine ⟨List.forall_mem_nil _, fun tr ts ready => ?_⟩
      cases state.1.symm.trans ready
    · refine ⟨fun stamp member => ?_, fun tr ts ready => ?_⟩
      · rw [List.mem_singleton.mp member]
        exact max_le (Nat.le_add_right _ _) roomy.meets
      · cases state.2.symm.trans ready

/-- Take two machines with mirrored entries, whose users stay and give only commands that the states
admit. If packets arrive within the lag, heartbeats are sent within the slack, and the timers leave
room for both, then the two keep their association: nobody gives up, no connection ends, and after
every step both agree. They can always go on in time. -/
theorem kept_alive {mirror : Mirror} {lag slack : Duration} {clientId : Option String}
    {clientNow serverNow : Instant} {first : Pair} {last : Clocked} {labels : List Clocked.Label}
    (roomy : mirror.Roomy lag slack clientNow serverNow)
    (started : Pair.start mirror clientId clientNow serverNow = some first)
    (run : Run Clocked.step (.start first clientNow serverNow) labels last)
    (timely : EachStep Clocked.step (fun clocked label => clocked.timely lag slack label = true ∧
      label.label.stays = true) (.start first clientNow serverNow) labels) :
    EachMove Clocked.step (fun clocked label next => clocked.pair.calm label.label = true ∧
      (∀ side, ∀ expiry ∈ (clocked.pair.peer side).machine.state.expiry, label.time < expiry) ∧
      next.pair.Agreed) (.start first clientNow serverNow) labels ∧
    ∃ label, last.timely lag slack label = true ∧ Label.stays label.label = true ∧
      (last.step label).isSome = true := by
  have kept : ∀ clocked label next, (∃ session, Kept mirror lag slack clocked session) →
      (clocked.timely lag slack label = true ∧ Label.stays label.label = true) →
      clocked.step label = some next →
      (∃ session, Kept mirror lag slack next session) ∧
        clocked.pair.calm label.label = true ∧
        (∀ side, ∀ expiry ∈ (clocked.pair.peer side).machine.state.expiry, label.time < expiry) ∧
        next.pair.Agreed := by
    rintro clocked label next ⟨session, kept⟩ ⟨timely, stays⟩ move
    obtain ⟨session', after⟩ := kept.step roomy timely stays move
    exact ⟨⟨session', after⟩, kept.calm timely stays move, kept.early timely,
      after.undisturbed.agreed⟩
  obtain ⟨⟨session, holds⟩, each⟩ :=
    EachStep.preserves kept run ⟨.fresh, Kept.start roomy started⟩ timely
  exact ⟨each, holds.goes⟩

/-- The association of the tests with the times of its steps, and two heartbeats. -/
def Sample.beating : List Clocked.Label :=
  List.zipWith Clocked.Label.mk [0, 1, 1, 1, 1, 1, 1, 2, 2, 2, 2, 3, 3, 4, 4, 4]
    Sample.association ++
  [⟨17, .server, .act (.tsTimeout 17)⟩, ⟨17, .server, .transmit⟩, ⟨18, .client, .deliver 18⟩,
    ⟨19, .client, .act (.tsTimeout 19)⟩, ⟨20, .client, .transmit⟩, ⟨20, .server, .deliver 20⟩]

theorem kept_alive_beating :
    EachMove Clocked.step (fun clocked label next => clocked.pair.calm label.label = true ∧
      (∀ side, ∀ expiry ∈ (clocked.pair.peer side).machine.state.expiry, label.time < expiry) ∧
      next.pair.Agreed) (.start Sample.pair 0 0) Sample.beating ∧
    ∃ label, ((final Clocked.step (.start Sample.pair 0 0) Sample.beating).getD
        (.start Sample.pair 0 0)).timely 2 2 label = true ∧ Label.stays label.label = true ∧
      (((final Clocked.step (.start Sample.pair 0 0) Sample.beating).getD
        (.start Sample.pair 0 0)).step label).isSome = true :=
  kept_alive ⟨by decide, by decide, by decide, by decide, by decide⟩ Sample.pair_started
    (Run.of_enabled Clocked.step (.start Sample.pair 0 0) Sample.beating (by decide +kernel))
    (by decide +kernel)

end Fmtp

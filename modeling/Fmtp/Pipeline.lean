/-
This file composes the three tasks that a received message passes: the loop of its connection,
which sends events over a bounded channel, the daemon's task that takes the events and forwards
the messages among them over a second bounded channel, and a consumer such as fmtp-http, which
keeps the second channel open in the registry and never reads it. The event task stops for good
at the message that the second channel has no room for, and the loop with it once its own
channel is full; then it serves neither timers nor commands.
-/

import Fmtp.Relay
import Fmtp.Stream
import Fmtp.Delivery

namespace Fmtp.Tokio

open TransitionSystem

/-! ### The three tasks -/

/-- The events that a log gives the user. -/
def events (log : List Action) : List ConnectionEvent :=
  log.filterMap fun
    | .sent event => some event
    | .dispatched _ | .connected _ _ | .wrote _ _ _ | .shut _ => none

/-- The events that a loop has sent since. -/
def eventsSince (loop next : Loop) : List ConnectionEvent :=
  events (next.connection.log.drop loop.connection.log.length)

/-- The event task forwards messages and enters every other event in the registry. -/
def ConnectionEvent.Forwarded : ConnectionEvent → Bool
  | .dataReceived _ => true
  | .stateChanged _ | .connectionIdDetermined _ => false

/-- The loop before its event channel, and the event task before the message channel. -/
def pipeline : Relay.Design Loop Offer ConnectionEvent where
  step := Loop.iterate
  produces := eventsSince
  forwards := ConnectionEvent.Forwarded
  channelSize := 1024
  storeSize := 1024

/-! ### The events of a run -/

theorem eventsSince_of_log {loop next : Loop} {actions : List Action}
    (logged : next.connection.log = loop.connection.log ++ actions) :
    eventsSince loop next = events actions := by
  rw [eventsSince, logged, List.drop_left]

theorem eventsSince_append {loop next last : Loop}
    (logged : ∃ actions, next.connection.log = loop.connection.log ++ actions)
    (logged' : ∃ actions, last.connection.log = next.connection.log ++ actions) :
    eventsSince loop last = eventsSince loop next ++ eventsSince next last := by
  obtain ⟨actions, logged⟩ := logged
  obtain ⟨later, logged'⟩ := logged'
  have whole : last.connection.log = loop.connection.log ++ (actions ++ later) := by
    rw [logged', logged, List.append_assoc]
  rw [eventsSince_of_log whole, eventsSince_of_log logged, eventsSince_of_log logged', events,
    events, events, List.filterMap_append]

/-- A run only adds to the log. -/
theorem run_logs {loop last : Loop} {offers : List Offer}
    (run : Run Loop.iterate loop offers last) :
    ∃ actions, last.connection.log = loop.connection.log ++ actions := by
  induction run with
  | nil loop => exact ⟨[], (List.append_nil _).symm⟩
  | @cons loop next last offer offers move _ inductionHypothesis =>
    obtain ⟨actions, logged, _⟩ := loop.iterate_logs offer move
    obtain ⟨later, logged'⟩ := inductionHypothesis
    exact ⟨actions ++ later, by rw [logged', logged, List.append_assoc]⟩

/-- The events of a run are those in what it has logged. -/
theorem emitted_run {loop last : Loop} {offers : List Offer}
    (run : Run Loop.iterate loop offers last) :
    pipeline.emitted loop offers = eventsSince loop last := by
  induction run with
  | nil loop => exact (eventsSince_of_log (List.append_nil loop.connection.log).symm).symm
  | @cons loop next last offer offers move run inductionHypothesis =>
    obtain ⟨actions, logged, _⟩ := loop.iterate_logs offer move
    have stepped : pipeline.step loop offer = some next := move
    simp only [Relay.Design.emitted, stepped, inductionHypothesis]
    exact (eventsSince_append ⟨actions, logged⟩ (run_logs run)).symm

/-! ### Exactly when the tasks can wedge -/

/-- In no interleaving of the tasks is the loop kept from its next iteration for good, exactly
where the loop does not send more than 1024 events after its 1025th message. The lock of the
registry is left out, and with it the handlers that hold it while they wait for a loop. -/
theorem pipeline_exact {loop last : Loop} {offers : List Offer}
    (run : Run Loop.iterate loop offers last) :
    (∀ turns chain, Run pipeline.turn (.start loop) turns chain → Relay.fed turns <+: offers →
      ¬ pipeline.Wedged chain ∧ pipeline.Returns chain) ↔
      ¬ pipeline.Overflows (eventsSince loop last) := by
  have sized : 0 < pipeline.channelSize := Nat.succ_pos 1023
  rw [← emitted_run run, ← pipeline.always_returns_iff sized]
  constructor
  · intro safe turns chain schedule begun
    exact (safe turns chain schedule begun).2
  · intro returns turns chain schedule begun
    have returns := returns turns chain schedule begun
    exact ⟨returns.not_wedged, returns⟩

/-- The tasks of the tests' client while it associates and delivers a message. -/
theorem pipeline_exact_delivering :
    (∀ turns chain, Run pipeline.turn (.start (Sample.client Fmtp.Sample.clientEntry)) turns chain →
      Relay.fed turns <+: Sample.delivering →
      ¬ pipeline.Wedged chain ∧ pipeline.Returns chain) ↔
      ¬ pipeline.Overflows (eventsSince (Sample.client Fmtp.Sample.clientEntry)
        ((final Loop.iterate (Sample.client Fmtp.Sample.clientEntry) Sample.delivering).getD
          (Sample.client Fmtp.Sample.clientEntry))) :=
  pipeline_exact (Run.of_enabled _ _ _ (by decide +kernel))

/-! ### A peer that goes on sending -/

/-- An associated connection with an entry queues the message of a data packet. -/
theorem Connection.handleRemotePacket_data {connection : Connection} {storage : ConnectionState}
    {tr : Tr} {ts : Ts} {entry : ConnectionConfig} {packet : FmtpPacket} {msg : FmtpMessage}
    {bytes : List Byte} {received : Nat}
    (associated : connection.inner = ⟨.dataReady tr ts, storage⟩)
    (found : storage.entry = some entry) (nonzero : received ≠ 0)
    (decoded : FmtpPacket.fromBytes bytes = .ok packet) (data : packet.tryToMsg = .ok msg)
    (now : Instant) :
    ∃ after, connection.handleRemotePacket bytes received now = .ok after ∧
      after.inner = ⟨.dataReady ⟨now + entry.tr⟩ ts, storage⟩ ∧
      after.ctx = connection.ctx.receive msg := by
  have translated : Event.fromIncomingPacket received packet now storage.config storage.id =
      .ok (.rData now msg) := fromIncomingPacket_data nonzero data
  have handled := Fmtp.Connection.handleWithContext_data found tr ts now msg connection.ctx
  rw [Connection.handleRemotePacket, decoded, associated]
  dsimp only
  rw [translated]
  dsimp only
  rw [Connection.dispatch, associated, handled]
  exact ⟨_, rfl, rfl, rfl⟩

namespace Sample

/-- At a time the socket gives a chunk. -/
def givingAt (now : Instant) (chunk : Chunk) : Offer :=
  { incoming chunk with clock := now }

/-- At a time nothing is ready. -/
def quietAt (now : Instant) : Offer :=
  { quiet with clock := now }

end Sample

/-- An associated loop at rest before its deadlines, with some messages queued. -/
structure Receptive (now : Instant) (messages : List FmtpMessage) (loop : Loop) : Prop where
  running : loop.result = none
  socketed : loop.socket ≠ none
  reported : loop.id ≠ none
  queues : loop.connection.ctx = ⟨[], messages⟩
  associated : ∃ tr ts, loop.connection.inner.state = .dataReady tr ts ∧ now < tr.deadline ∧
    now < ts.deadline
  found : ∃ entry, loop.connection.inner.storage.entry = some entry ∧ 0 < entry.tr

namespace Receptive

variable {now : Instant} {loop : Loop} {messages : List FmtpMessage}

theorem reportState (receptive : Receptive now messages loop) {offer : Offer}
    (listening : ∀ event, offer.listening event = true) :
    Receptive now messages (loop.reportState offer) := by
  unfold Loop.reportState
  split
  · exact receptive
  · rw [Loop.send, if_pos (listening _)]
    exact ⟨receptive.running, receptive.socketed, receptive.reported, receptive.queues,
      receptive.associated, receptive.found⟩

/-- The reports after the race. -/
theorem reports (receptive : Receptive now messages loop) (offer : Offer)
    (listening : ∀ event, offer.listening event = true) :
    Receptive now messages ((loop.andThen (·.reportId offer)).andThen (·.reportState offer)) := by
  have told : loop.andThen (·.reportId offer) = loop := by
    obtain ⟨id, reported⟩ := Option.ne_none_iff_exists'.mp receptive.reported
    simp only [Loop.andThen, receptive.running, Loop.reportId, reported]
  rw [told]
  simp only [Loop.andThen, receptive.running]
  exact receptive.reportState listening

/-- The timers leave the loop alone. -/
theorem turn (receptive : Receptive now messages loop) (offer : Offer) (early : offer.clock = now) :
    Tokio.turn loop.connection.inner offer = none := by
  obtain ⟨tr, ts, associated, late, late'⟩ := receptive.associated
  unfold Tokio.turn
  simp only [associated, early]
  rw [if_neg fun due => Nat.not_le.mpr late due.1, if_neg (Nat.not_le.mpr late')]

/-- At rest, the loop takes what the socket gives. -/
theorem select_read (receptive : Receptive now [] loop) (chunk : Chunk) :
    loop.select (Sample.givingAt now chunk) = some (.read (some chunk)) := by
  have idle := receptive.turn (Sample.givingAt now chunk) rfl
  obtain ⟨socket, socketed⟩ := Option.ne_none_iff_exists'.mp receptive.socketed
  simp only [Loop.select, receptive.queues, ConnectionContext.pollTransmit,
    ConnectionContext.pollReceive, socketed, idle]
  rfl

/-- The packet of the chunk goes into the queue. -/
theorem arm_read (receptive : Receptive now [] loop) :
    Receptive now [.operational [7]] (loop.pop.arm (Sample.givingAt now Sample.dataChunk)
      (.read (some Sample.dataChunk))) := by
  obtain ⟨tr, ts, associated, _, late⟩ := receptive.associated
  obtain ⟨entry, found, lasting⟩ := receptive.found
  let packet : FmtpPacket := .ofPayload .operational [7] (by decide)
  let storage := loop.connection.inner.storage
  have machine : loop.pop.connection.inner = ⟨.dataReady tr ts, storage⟩ := by
    rw [← associated]
    rfl
  have decoded : FmtpPacket.fromBytes (loop.pop.buffer.fill Sample.dataChunk).1 = .ok packet :=
    @Buffer.fill_decodes loop.buffer Sample.dataChunk ⟨packet, by decide⟩ []
      (List.append_nil _).symm
  have data : packet.tryToMsg = .ok (.operational [7]) := rfl
  have nonzero : Sample.dataChunk.1.length ≠ 0 := by decide
  have early : (Sample.givingAt now Sample.dataChunk).clock = now := rfl
  obtain ⟨connection, handled, inner, queued⟩ :=
    Connection.handleRemotePacket_data machine found nonzero decoded data now
  have arm : loop.pop.arm (Sample.givingAt now Sample.dataChunk) (.read (some Sample.dataChunk)) =
      { loop.pop with buffer := loop.pop.buffer.fill Sample.dataChunk, connection } := by
    rw [Loop.arm, Loop.readArm]
    simp only [early, handled]
  rw [arm]
  refine ⟨receptive.running, receptive.socketed, receptive.reported, ?_,
    ⟨⟨now + entry.tr⟩, ts, ?_, Nat.lt_add_of_pos_right lasting, late⟩, entry, ?_, lasting⟩
  · show connection.ctx = _
    rw [queued]
    show loop.connection.ctx.pollTransmit.2.pollReceive.2.receive _ = _
    rw [receptive.queues]
    rfl
  · show connection.inner.state = _
    rw [inner]
  · show connection.inner.storage.entry = _
    rw [inner]
    exact found

/-- The loop at rest reads the next packet. -/
theorem read (receptive : Receptive now [] loop) :
    ∃ next, loop.iterate (Sample.givingAt now Sample.dataChunk) = some next ∧
      Receptive now [.operational [7]] next := by
  refine ⟨_, ?_, receptive.arm_read.reports (Sample.givingAt now Sample.dataChunk) fun _ => rfl⟩
  rw [Loop.iterate, receptive.running]
  dsimp only
  rw [receptive.select_read, Option.map_some]

/-- The message in the queue is given to the user. -/
theorem give {msg : FmtpMessage} (receptive : Receptive now [msg] loop) :
    ∃ next, loop.iterate (Sample.quietAt now) = some next ∧ Receptive now [] next ∧
      1 ≤ (eventsSince loop next).countP ConnectionEvent.Forwarded := by
  have selected : loop.select (Sample.quietAt now) = some (.receive msg) := by
    simp only [Loop.select, receptive.queues, ConnectionContext.pollTransmit,
      ConnectionContext.pollReceive]
    cases loop.socket <;> rfl
  let given := loop.pop.record (.sent (.dataReceived msg))
  have arm : loop.pop.arm (Sample.quietAt now) (.receive msg) = given := rfl
  have rested : Receptive now [] given := by
    refine ⟨receptive.running, receptive.socketed, receptive.reported, ?_, receptive.associated,
      receptive.found⟩
    show loop.connection.ctx.pollTransmit.2.pollReceive.2 = _
    rw [receptive.queues]
    rfl
  obtain ⟨next, move, rested⟩ : ∃ next, loop.iterate (Sample.quietAt now) = some next ∧
      Receptive now [] next := by
    refine ⟨_, ?_, rested.reports (Sample.quietAt now) fun _ => rfl⟩
    simp only [Loop.iterate, receptive.running, selected, Option.map_some, arm]
  refine ⟨next, move, rested, ?_⟩
  obtain ⟨_, branch, selected', actions, stays, _⟩ := loop.iterate_spec (Sample.quietAt now) move
  obtain rfl := Option.some.inj (selected.symm.trans selected')
  have logged : given.connection.log = loop.connection.log ++ [.sent (.dataReceived msg)] := rfl
  rw [eventsSince_append ⟨_, logged⟩ ⟨actions, stays.log⟩, eventsSince_of_log logged,
    List.countP_append]
  exact Nat.le_add_right 1 _

end Receptive

/-- A peer sends some packets, and the user is given the message of each before the next. -/
def Sample.deliveries (now : Instant) : Nat → List Offer
  | 0 => []
  | count + 1 => givingAt now dataChunk :: quietAt now :: deliveries now count

theorem Sample.deliveries_listen (now : Instant) (count : Nat) :
    ∀ offer ∈ deliveries now count, ∀ event, offer.listening event = true := by
  induction count with
  | zero => exact List.forall_mem_nil _
  | succ count inductionHypothesis =>
    exact List.forall_mem_cons.mpr ⟨fun _ => rfl,
      List.forall_mem_cons.mpr ⟨fun _ => rfl, inductionHypothesis⟩⟩

/-- Every packet brings an event that is to be forwarded. -/
theorem Receptive.deliveries {now : Instant} {loop : Loop} (receptive : Receptive now [] loop)
    (count : Nat) :
    ∃ last, Run Loop.iterate loop (Sample.deliveries now count) last ∧ Receptive now [] last ∧
      count ≤ (eventsSince loop last).countP ConnectionEvent.Forwarded := by
  induction count generalizing loop with
  | zero => exact ⟨loop, .nil loop, receptive, Nat.zero_le _⟩
  | succ count inductionHypothesis =>
    obtain ⟨middle, reads, filled⟩ := receptive.read
    obtain ⟨next, gives, rested, given⟩ := filled.give
    obtain ⟨last, run, final, counted⟩ := inductionHypothesis rested
    have first : Run Loop.iterate loop
        [Sample.givingAt now Sample.dataChunk, Sample.quietAt now] next :=
      .cons reads (.cons gives (.nil next))
    refine ⟨last, .cons reads (.cons gives run), final, ?_⟩
    rw [eventsSince_append (run_logs first) (run_logs run),
      eventsSince_append (run_logs (.cons reads (.nil middle)))
        (run_logs (.cons gives (.nil next))), List.countP_append, List.countP_append]
    omega

/-- The tests' client is at rest once it has associated. -/
theorem Sample.exists_receptive : ∃ loop,
    Run Loop.iterate (client Fmtp.Sample.clientEntry) association loop ∧ Receptive 1 [] loop := by
  let loop := (final Loop.iterate (client Fmtp.Sample.clientEntry) association).getD
    (client Fmtp.Sample.clientEntry)
  have reached : (final Loop.iterate (client Fmtp.Sample.clientEntry) association).isSome = true ∧
      loop.result.isNone = true ∧ loop.socket ≠ none ∧ loop.id ≠ none ∧
      loop.connection.ctx = ⟨[], []⟩ ∧
      loop.connection.inner.state = .dataReady ⟨41⟩ ⟨16⟩ ∧
      loop.connection.inner.storage.entry = some Fmtp.Sample.clientEntry := by
    decide +kernel
  obtain ⟨enabled, running, socketed, reported, queues, associated, found⟩ := reached
  exact ⟨loop, Run.of_enabled _ _ _ enabled, Option.isNone_iff_eq_none.mp running, socketed,
    reported, queues, ⟨⟨41⟩, ⟨16⟩, associated, by decide, by decide⟩,
    ⟨Fmtp.Sample.clientEntry, found, by decide⟩⟩

/-- The event task suspends for good at the 1025th message, and the loop behind it. -/
theorem pipeline_wedges : ¬ ∀ (cfg : Config) (connectionId : Option String) (offers : List Offer)
    (last : Loop), cfg.validate = .ok cfg →
    Run Loop.iterate (Connection.new cfg connectionId).runClient offers last →
    (∀ offer ∈ offers, ∀ event, offer.listening event = true) →
    ∀ turns chain, Run pipeline.turn (.start (Connection.new cfg connectionId).runClient) turns
      chain → Relay.fed turns <+: offers → ¬ pipeline.Wedged chain ∧ pipeline.Returns chain := by
  intro claim
  obtain ⟨loop, associates, receptive⟩ := Sample.exists_receptive
  obtain ⟨middle, fills, rested, stored⟩ := receptive.deliveries 1025
  obtain ⟨last, more, _, sent⟩ := rested.deliveries 1025
  have before := associates.append fills
  have run := before.append more
  have listening : ∀ offer ∈ Sample.association ++ Sample.deliveries 1 1025 ++
      Sample.deliveries 1 1025, ∀ event, offer.listening event = true :=
    List.forall_mem_append.mpr ⟨List.forall_mem_append.mpr ⟨Sample.association_listens,
      Sample.deliveries_listen 1 1025⟩, Sample.deliveries_listen 1 1025⟩
  have safe := claim _ _ _ _ rfl run listening
  have clear := (pipeline.always_returns_iff (Nat.succ_pos 1023)
    (Sample.client Fmtp.Sample.clientEntry) _).mp fun turns chain schedule begun =>
      (safe turns chain schedule begun).2
  refine clear ?_
  rw [emitted_run run, eventsSince_append (run_logs before) (run_logs more)]
  refine ⟨_, _, rfl, ?_, Nat.lt_of_lt_of_le sent List.countP_le_length⟩
  rw [eventsSince_append (run_logs associates) (run_logs fills), List.countP_append]
  exact Nat.lt_of_lt_of_le stored (Nat.le_add_left _ _)

end Fmtp.Tokio

/-
This file says what dialling does to a machine in Idle. Each address sets the machine up and,
if it does not answer, takes it back to Idle with nothing queued; the first one that answers
opens a socket and queues the handshake of the entry. Connecting is all or nothing: the machine
waits for the peer's identification on the new socket, or is as it was.
-/

import Fmtp.Iteration

namespace Fmtp.Tokio

/-- The action opens a TCP connection or queues a handshake. -/
def Action.Reconnects : Action → Prop
  | .connected _ _ => True
  | .dispatched entry => ∃ localId remoteId, FmtpPacket.handshake localId remoteId ∈ entry.packets
  | .wrote _ _ _ | .shut _ | .sent _ => False

theorem Action.Plain.not_reconnects {action : Action} (plain : action.Plain) :
    ¬ action.Reconnects := by
  cases action with
  | dispatched | connected => exact absurd plain not_false
  | wrote | shut | sent => exact not_false

/-- A dispatch that queues nothing does not reconnect. -/
theorem Action.not_reconnects_of_nil {entry : Dispatched} (none : entry.packets = []) :
    ¬ (Action.dispatched entry).Reconnects := by
  rintro ⟨localId, remoteId, member⟩
  rw [none] at member
  exact absurd member List.not_mem_nil

/-- The machine is in Idle and its configuration has the entry of the key. -/
structure Dialable (key : String) (config : ConnectionConfig) (connection : Connection) :
    Prop where
  idle : connection.inner.state = .idle
  found : connection.inner.storage.config.connections.lookup key = some config

/-- The machine was set up for the key and waits for the TCP connection. -/
structure Dialled (key : String) (config : ConnectionConfig) (connection : Connection) :
    Prop where
  pending : connection.inner.state = .connectionPending
  found : connection.inner.storage.config.connections.lookup key = some config
  id : connection.inner.storage.id = some key

variable {key : String} {config : ConnectionConfig} {connection : Connection}

theorem Dialled.entry (dialled : Dialled key config connection) :
    connection.inner.storage.entry = some config := by
  rw [ConnectionState.entry, dialled.id]
  exact dialled.found

/-! ### The dispatches of an attempt -/

namespace Connection

/-- An event is dispatched, queues nothing and does not fail the machine. -/
structure Passes (event : Event) (before after : Connection) (entry : Dispatched) : Prop where
  handled : before.dispatch event = .ok after
  dispatches : Dispatches before after entry
  raised : entry.event = event
  silent : entry.packets = []
  sound : entry.after.state ≠ .error

end Connection

/-- The set-up before an address. -/
theorem Dialable.setUp (dialable : Dialable key config connection) :
    ∃ next entry, Connection.Passes (.lSetup key) connection next entry ∧
      Dialled key config next ∧ next.inner.storage.server = false ∧
      next.ctx = connection.ctx := by
  obtain ⟨next, handled⟩ : ∃ next, connection.dispatch (.lSetup key) = .ok next :=
    connection.dispatch_ok nofun
  obtain ⟨entry, raised, dispatches⟩ := Connection.dispatch_spec handled
  have reaction := dispatches.reaction
  rw [raised, dialable.idle] at reaction
  obtain ⟨stored, pending, none, silent⟩ := reaction.unique (.setUp dialable.found)
  have sound : entry.after.state ≠ .error := by
    rw [dispatches.target, pending]
    nofun
  refine ⟨next, entry, ⟨handled, dispatches, raised, none, sound⟩, ⟨pending, ?_, ?_⟩, ?_, ?_⟩
  · rw [stored]
    exact dialable.found
  · rw [stored]
  · rw [stored]
  · rw [dispatches.ctx, none, silent, ConnectionContext.extend_nil]

/-- An address that does not answer takes the machine back to Idle. -/
theorem Dialled.refuse (dialled : Dialled key config connection) :
    ∃ next entry, Connection.Passes .rDisconnect connection next entry ∧
      Dialable key config next ∧ next.ctx = connection.ctx := by
  obtain ⟨next, handled⟩ : ∃ next, connection.dispatch .rDisconnect = .ok next :=
    connection.dispatch_ok nofun
  obtain ⟨entry, raised, dispatches⟩ := Connection.dispatch_spec handled
  have reaction := dispatches.reaction
  rw [raised, dialled.pending] at reaction
  have configured := ConnectionState.configured_of_found _ dialled.entry .connectionPending
  obtain ⟨stored, idle, none, silent⟩ := reaction.unique (.released rfl configured)
  have sound : entry.after.state ≠ .error := by
    rw [dispatches.target, idle]
    nofun
  refine ⟨next, entry, ⟨handled, dispatches, raised, none, sound⟩, ⟨idle, ?_⟩, ?_⟩
  · rw [stored]
    exact dialled.found
  · rw [dispatches.ctx, none, silent, ConnectionContext.extend_nil]

/-- The machine was connected for the key and waits for the identification of the peer. -/
structure Greeting (key : String) (config : ConnectionConfig) (now : Instant)
    (connection : Connection) : Prop where
  pending : connection.inner.state = .idPending ⟨now + config.ti⟩
  client : connection.inner.storage.server = false
  id : connection.inner.storage.id = some key
  target : connection.inner.storage.target = config.initialTarget

/-- An address that answers queues the handshake of the entry. -/
theorem Dialled.answer (dialled : Dialled key config connection)
    (client : connection.inner.storage.server = false) (now : Instant) :
    ∃ next entry, connection.dispatch (.rSetup now) = .ok next ∧
      Connection.Dispatches connection next entry ∧ entry.event = .rSetup now ∧
      Greeting key config now next ∧
      next.ctx = connection.ctx.send (.handshake config.localId config.remoteId) := by
  obtain ⟨next, handled⟩ : ∃ next, connection.dispatch (.rSetup now) = .ok next :=
    connection.dispatch_ok nofun
  obtain ⟨entry, raised, dispatches⟩ := Connection.dispatch_spec handled
  have reaction := dispatches.reaction
  rw [raised, dialled.pending] at reaction
  obtain ⟨stored, pending, queued, silent⟩ := reaction.unique (.connected dialled.entry)
  refine ⟨next, entry, handled, dispatches, raised, ⟨pending, ?_, ?_, ?_⟩, ?_⟩
  · rw [stored]
    exact client
  · rw [stored]
    exact dialled.id
  · rw [stored]
  · rw [dispatches.ctx, queued, silent, ConnectionContext.send_eq_extend]

/-! ### The addresses in order -/

/-- The events dispatched in a log. -/
def raised (log : List Action) : List Event :=
  log.filterMap fun
    | .dispatched entry => some entry.event
    | _ => none

/-- The action does not take the machine to Error. -/
def Action.Sound : Action → Prop
  | .dispatched entry => entry.after.state ≠ .error
  | .connected _ _ | .wrote _ _ _ | .shut _ | .sent _ => True

/-- What attempts at `count` addresses dispatch when none of them answers. -/
def attempts (key : String) (count : Nat) : List Event :=
  (List.replicate count [Event.lSetup key, .rDisconnect]).flatten

/-- From one connection to another, `count` addresses were tried and did not answer. -/
structure Refused (key : String) (count : Nat) (before after : Connection)
    (actions : List Action) : Prop where
  ctx : after.ctx = before.ctx
  log : after.log = before.log ++ actions
  raised : raised actions = attempts key count
  sound : ∀ action ∈ actions, action.Sound
  quiet : ∀ action ∈ actions, ¬ action.Reconnects

namespace Refused

theorem nil (key : String) (connection : Connection) : Refused key 0 connection connection [] :=
  ⟨rfl, (List.append_nil _).symm, rfl, List.forall_mem_nil _, List.forall_mem_nil _⟩

theorem one {before middle after : Connection} {entry entry' : Dispatched}
    (setUp : Connection.Passes (.lSetup key) before middle entry)
    (refused : Connection.Passes .rDisconnect middle after entry')
    (same : after.ctx = before.ctx) :
    Refused key 1 before after [.dispatched entry, .dispatched entry'] := by
  refine ⟨same, ?_, ?_, ?_, ?_⟩
  · rw [refused.dispatches.log, setUp.dispatches.log, List.append_assoc]
    rfl
  · show [entry.event, entry'.event] = _
    rw [setUp.raised, refused.raised]
    rfl
  · refine List.forall_mem_cons.mpr ⟨setUp.sound, List.forall_mem_cons.mpr ⟨refused.sound, ?_⟩⟩
    exact List.forall_mem_nil _
  · refine List.forall_mem_cons.mpr ⟨Action.not_reconnects_of_nil setUp.silent, ?_⟩
    refine List.forall_mem_cons.mpr ⟨Action.not_reconnects_of_nil refused.silent, ?_⟩
    exact List.forall_mem_nil _

theorem trans {first second : Nat} {before middle after : Connection}
    {earlier later : List Action} (left : Refused key first before middle earlier)
    (right : Refused key second middle after later) :
    Refused key (first + second) before after (earlier ++ later) := by
  refine ⟨right.ctx.trans left.ctx, ?_, ?_, ?_, ?_⟩
  · rw [right.log, left.log, List.append_assoc]
  · rw [Tokio.raised, List.filterMap_append]
    show Tokio.raised earlier ++ Tokio.raised later = _
    rw [left.raised, right.raised, attempts, attempts, attempts, List.replicate_add,
      List.flatten_append]
  · exact fun action member =>
      (List.mem_append.mp member).elim (left.sound action) (right.sound action)
  · exact fun action member =>
      (List.mem_append.mp member).elim (left.quiet action) (right.quiet action)

end Refused

/-- The addresses before the first that answers leave the machine as it was, up to its record. -/
theorem Dialable.dialAll_append {dial : Nat → Option Instant} {count : Nat}
    {before : List SocketAddr} (dialable : Dialable key config connection) (socket : Nat)
    (silent : ∀ index < before.length, dial (count + index) = none) (rest : List SocketAddr) :
    ∃ next actions, connection.dialAll key dial socket (before ++ rest) count =
        next.dialAll key dial socket rest (count + before.length) ∧
      Dialable key config next ∧ Refused key before.length connection next actions := by
  induction before generalizing connection count with
  | nil => exact ⟨connection, [], rfl, dialable, .nil key connection⟩
  | cons address before inductionHypothesis =>
    obtain ⟨ready, entry, setUp, dialled, _, unchanged⟩ := dialable.setUp
    obtain ⟨idle, entry', refused, again, unchanged'⟩ := dialled.refuse
    have first : dial count = none := silent 0 (Nat.zero_lt_succ before.length)
    have others : ∀ index < before.length, dial (count + 1 + index) = none := by
      intro index bound
      rw [Nat.add_assoc, Nat.add_comm 1 index]
      exact silent (index + 1) (Nat.succ_lt_succ bound)
    obtain ⟨next, actions, dialled', last, tried⟩ := inductionHypothesis again others
    have one := Refused.one setUp refused (unchanged'.trans unchanged)
    refine ⟨next, [.dispatched entry, .dispatched entry'] ++ actions, ?_, last, ?_⟩
    · rw [List.cons_append, Connection.dialAll]
      simp only [setUp.handled, first, refused.handled, dialled', List.length_cons]
      rw [Nat.add_assoc, Nat.add_comm 1]
    · rw [List.length_cons, Nat.add_comm]
      exact one.trans tried

/-- Where no address answers, the machine is back in Idle and nothing was queued. -/
theorem Dialable.dialAll_refused {dial : Nat → Option Instant} {addresses : List SocketAddr}
    (dialable : Dialable key config connection) (socket : Nat)
    (silent : ∀ index < addresses.length, dial index = none) :
    ∃ next actions,
      connection.dialAll key dial socket addresses 0 =
        .ok (next, .error (Connection.notConnected key)) ∧
      Dialable key config next ∧ Refused key addresses.length connection next actions := by
  have silent' : ∀ index < addresses.length, dial (0 + index) = none := by
    intro index bound
    rw [Nat.zero_add]
    exact silent index bound
  obtain ⟨next, actions, dialled, last, tried⟩ := dialable.dialAll_append socket silent' []
  rw [List.append_nil] at dialled
  exact ⟨next, actions, dialled, last, tried⟩

/-- From one connection to another, `count` addresses were tried and the next one answered. -/
structure Answered (key : String) (config : ConnectionConfig) (count socket : Nat)
    (address : SocketAddr) (now : Instant) (before after : Connection) (actions : List Action) :
    Prop where
  greeting : Greeting key config now after
  ctx : after.ctx = before.ctx.send (.handshake config.localId config.remoteId)
  log : after.log = before.log ++ actions
  raised : raised actions = attempts key count ++ [.lSetup key, .rSetup now]
  sound : ∀ action ∈ actions, action.Sound
  connected : .connected socket address ∈ actions

/-- The first address that answers opens the socket, and the handshake is queued. -/
theorem Dialable.dialAll_answered {dial : Nat → Option Instant} {before : List SocketAddr}
    {now : Instant} (dialable : Dialable key config connection) (socket : Nat)
    (silent : ∀ index < before.length, dial index = none)
    (answers : dial before.length = some now) (address : SocketAddr) (rest : List SocketAddr) :
    ∃ next actions, connection.dialAll key dial socket (before ++ address :: rest) 0 =
        .ok (next, .ok (address, socket)) ∧
      Answered key config before.length socket address now connection next actions := by
  have silent' : ∀ index < before.length, dial (0 + index) = none := by
    intro index bound
    rw [Nat.zero_add]
    exact silent index bound
  obtain ⟨idle, earlier, skipped, again, tried⟩ :=
    dialable.dialAll_append socket silent' (address :: rest)
  obtain ⟨ready, entry, setUp, dialled, client, unchanged⟩ := again.setUp
  have opened : Dialled key config (ready.record (.connected socket address)) :=
    ⟨dialled.pending, dialled.found, dialled.id⟩
  obtain ⟨next, entry', answered, dispatches, event, greeting, queued⟩ :=
    opened.answer client now
  have sound' : entry'.after.state ≠ .error := by
    rw [dispatches.target, greeting.pending]
    nofun
  refine ⟨next, earlier ++ [.dispatched entry, .connected socket address, .dispatched entry'],
    ?_, greeting, ?_, ?_, ?_, ?_, ?_⟩
  · rw [skipped, Nat.zero_add, Connection.dialAll]
    simp only [setUp.handled, answers, answered]
  · rw [queued]
    show ready.ctx.send _ = _
    rw [unchanged, tried.ctx]
  · rw [dispatches.log]
    show ready.log ++ [.connected socket address] ++ [.dispatched entry'] = _
    rw [setUp.dispatches.log, tried.log, List.append_assoc, List.append_assoc, List.append_assoc]
    rfl
  · rw [Tokio.raised, List.filterMap_append]
    show Tokio.raised earlier ++ [entry.event, entry'.event] = _
    rw [tried.raised, setUp.raised, event]
  · intro action member
    rcases List.mem_append.mp member with old | new
    · exact tried.sound action old
    · simp only [List.mem_cons, List.not_mem_nil, or_false] at new
      rcases new with rfl | rfl | rfl
      · exact setUp.sound
      · trivial
      · exact sound'
  · exact List.mem_append_right earlier (List.mem_cons_of_mem _ List.mem_cons_self)

/-- Either no address of a list answers, or one is the first to answer. -/
theorem exists_first_answer (dial : Nat → Option Instant) (addresses : List SocketAddr) :
    (∀ index < addresses.length, dial index = none) ∨
      ∃ before address rest now, addresses = before ++ address :: rest ∧
        (∀ index < before.length, dial index = none) ∧ dial before.length = some now := by
  induction addresses generalizing dial with
  | nil => exact Or.inl fun index bound => absurd bound (Nat.not_lt_zero index)
  | cons address rest inductionHypothesis =>
    cases first : dial 0 with
    | some now =>
      exact Or.inr ⟨[], address, rest, now, rfl,
        fun index bound => absurd bound (Nat.not_lt_zero index), first⟩
    | none =>
      have extend {size : Nat} (silent : ∀ index < size, dial (index + 1) = none) :
          ∀ index < size + 1, dial index = none := by
        intro index bound
        cases index with
        | zero => exact first
        | succ index => exact silent index (Nat.lt_of_succ_lt_succ bound)
      rcases inductionHypothesis fun index => dial (index + 1) with
        silent | ⟨before, address', rest', now, rfl, silent, answers⟩
      · exact Or.inl (extend silent)
      · exact Or.inr ⟨address :: before, address', rest', now, rfl, extend silent, answers⟩

/-! ### Connecting -/

/-- Connecting from Idle ends with the first address that answers, or with none and in Idle. -/
theorem connect_spec (connection : Connection) (idle : connection.inner.state = .idle)
    (key : String) (dial : Nat → Option Instant) (socket : Nat) :
    (∃ config before address rest now next actions,
      connection.inner.storage.config.connections.lookup key = some config ∧
      config.remoteAddresses = before ++ address :: rest ∧
      (∀ index < before.length, dial index = none) ∧ dial before.length = some now ∧
      connection.connect key dial socket = .ok (next, .ok (address, socket)) ∧
      Answered key config before.length socket address now connection next actions) ∨
    ∃ addresses next actions,
      ((connection.inner.storage.config.connections.lookup key).map (·.remoteAddresses)).getD [] =
        addresses ∧
      (∀ index < addresses.length, dial index = none) ∧
      connection.connect key dial socket = .ok (next, .error (Connection.notConnected key)) ∧
      Refused key addresses.length connection next actions ∧ next.inner.state = .idle := by
  unfold Connection.connect
  cases found : connection.inner.storage.config.connections.lookup key with
  | none =>
    exact Or.inr ⟨[], connection, [], rfl, fun index bound => absurd bound (Nat.not_lt_zero index),
      rfl, .nil key connection, idle⟩
  | some config =>
    have dialable : Dialable key config connection := ⟨idle, found⟩
    rcases exists_first_answer dial config.remoteAddresses with
      silent | ⟨before, address, rest, now, listed, silent, answers⟩
    · obtain ⟨next, actions, dialled, last, tried⟩ := dialable.dialAll_refused socket silent
      exact Or.inr ⟨_, next, actions, rfl, silent, dialled, tried, last.idle⟩
    · obtain ⟨next, actions, dialled, answered⟩ :=
        dialable.dialAll_answered socket silent answers address rest
      refine Or.inl ⟨config, before, address, rest, now, next, actions, rfl, listed, silent,
        answers, ?_, answered⟩
      dsimp only
      rw [listed]
      exact dialled

/-- Connecting from Idle with nothing queued tries the addresses of the key's entry in order.
Either it returns the first that connects, and the machine waits for the peer's identification
with its own handshake as the only packet, or it returns an error, the machine is in Idle and
nothing is queued. No dispatch on the way leads to Error. -/
theorem connect_all_or_nothing (connection : Connection)
    (idle : connection.inner.state = .idle) (unqueued : connection.ctx.sendQueue = [])
    (key : String) (dial : Nat → Option Instant) (socket : Nat) :
    (∃ config before address rest now next actions,
      connection.inner.storage.config.connections.lookup key = some config ∧
      config.remoteAddresses = before ++ address :: rest ∧
      (∀ index < before.length, dial index = none) ∧ dial before.length = some now ∧
      connection.connect key dial socket = .ok (next, .ok (address, socket)) ∧
      Answered key config before.length socket address now connection next actions ∧
      next.ctx.sendQueue = [.handshake config.localId config.remoteId]) ∨
    ∃ addresses next actions,
      ((connection.inner.storage.config.connections.lookup key).map (·.remoteAddresses)).getD [] =
        addresses ∧
      (∀ index < addresses.length, dial index = none) ∧
      connection.connect key dial socket = .ok (next, .error (Connection.notConnected key)) ∧
      Refused key addresses.length connection next actions ∧
      next.inner.state = .idle ∧ next.ctx.sendQueue = [] := by
  rcases connect_spec connection idle key dial socket with
    ⟨config, before, address, rest, now, next, actions, found, listed, silent, answers, connected,
      answered⟩ | ⟨addresses, next, actions, listed, silent, refused, tried, last⟩
  · refine Or.inl ⟨config, before, address, rest, now, next, actions, found, listed, silent,
      answers, connected, answered, ?_⟩
    rw [answered.ctx, ConnectionContext.send, unqueued]
    rfl
  · refine Or.inr ⟨addresses, next, actions, listed, silent, refused, tried, last, ?_⟩
    rw [tried.ctx, unqueued]

namespace Sample

/-- The client of the tests with a second address. -/
def roamingEntry : ConnectionConfig :=
  { Fmtp.Sample.clientEntry with remoteAddresses := [⟨"127.0.0.1", 8500⟩, ⟨"::1", 8500⟩] }

def roamingConfig : Config :=
  { Fmtp.Sample.clientConfig with connections := AList.singleton "test" roamingEntry }

/-- The first address refuses. -/
def secondAnswers : Nat → Option Instant
  | 0 => none
  | _ => some 1

end Sample

/-- The client connects to its second address, once the first has refused. -/
theorem connect_all_or_nothing_client : ∃ next,
    (Connection.new Sample.roamingConfig none).connect "test" Sample.secondAnswers 0 =
      .ok (next, .ok (⟨"::1", 8500⟩, 0)) ∧ Greeting "test" Sample.roamingEntry 1 next := by
  have known : Sample.roamingConfig.connections.lookup "test" = some Sample.roamingEntry := rfl
  have second : ∀ index, Sample.secondAnswers index = none → index = 0 := by
    rintro (_ | index) silent
    · rfl
    · cases silent
  rcases connect_all_or_nothing (.new Sample.roamingConfig none) rfl rfl "test"
      Sample.secondAnswers 0 with
    ⟨config, before, address, rest, now, next, actions, found, listed, silent, answers, connected,
      answered, _⟩ | ⟨addresses, next, actions, listed, silent, _⟩
  · obtain rfl := Option.some.inj (known.symm.trans found)
    have one : before.length = 1 := by
      have least : before.length ≠ 0 := fun none => by
        rw [none] at answers
        cases answers
      by_contra other
      exact absurd (second 1 (silent 1 (by omega))) Nat.one_ne_zero
    obtain ⟨first, rfl⟩ := List.length_eq_one_iff.mp one
    obtain rfl := Option.some.inj answers
    obtain rfl : ⟨"::1", 8500⟩ = address := (List.cons.inj (List.cons.inj listed).2).1
    exact ⟨next, connected, answered.greeting⟩
  · have two : addresses.length = 2 := by
      rw [← listed]
      rfl
    exact absurd (second 1 (silent 1 (by omega))) Nat.one_ne_zero

end Fmtp.Tokio

/-
This file is an abstract model of a session between a client and a server: what the two
parties of the protocol are for, without timers, identifiers or packet formats. A party is in
a phase, reads signals in the order they were sent, and moves on a trigger.

`Standing` lists the configurations of a session: the greeting, the answer, the acceptance, the
association, and what the other party may still read once one of them has gone. What flows
between two associated parties is a parameter. Any flow that is closed under the moves gives
an invariant of whole sessions, and two such flows are proved closed: the loose one, under all
moves, and the strict one, under all moves but the user's shutdown.
-/

import Fmtp.Packet

namespace Fmtp

inductive Side
  | client
  | server
deriving DecidableEq, Repr

def Side.other : Side → Side
  | .client => .server
  | .server => .client

@[simp] theorem Side.other_other (side : Side) : side.other.other = side := by
  cases side <;> rfl

@[simp] theorem Side.other_ne (side : Side) : side.other ≠ side := by
  cases side <;> nofun

instance {property : Side → Prop} [DecidablePred property] : Decidable (∀ side, property side) :=
  decidable_of_iff (property .client ∧ property .server)
    ⟨fun both side => by cases side with | client => exact both.1 | server => exact both.2,
      fun each => ⟨each .client, each .server⟩⟩

theorem Side.eq_or_other (side other : Side) : other = side ∨ other = side.other := by
  cases side <;> cases other <;> simp [Side.other]

/-! ### Phases, signals and triggers -/

/-- The states of a party. Ready is split by its target: a party that starts associates before
it reads on, a party that rests does not. -/
inductive Phase
  | idle
  | connectionPending
  | idPending
  | acceptPending
  | starting
  | resting
  | associationPending
  | dataReady
  | error
deriving DecidableEq, Repr

/-- The phases between the identification and the end. -/
def Phase.Open : Phase → Prop
  | .starting | .resting | .associationPending | .dataReady => True
  | .idle | .connectionPending | .idPending | .acceptPending | .error => False

theorem Phase.open_starting : Phase.Open .starting :=
  trivial

/-- A message that fits a packet. -/
abbrev SmallMessage := { msg : FmtpMessage // msg.data.length ≤ 10240 }

inductive Signal
  | handshake
  | accept
  | startup
  | shutdown
  | heartbeat
  | data (msg : SmallMessage)
deriving DecidableEq

/-- The signals that keep an association going. -/
def Signal.Carries : Signal → Prop
  | .startup | .heartbeat | .data _ => True
  | .handshake | .accept | .shutdown => False

/-- The signals after the identification. -/
def Signal.Associates : Signal → Prop
  | .startup | .heartbeat | .data _ | .shutdown => True
  | .handshake | .accept => False

/-- What moves a party: the next signal, its user, its timers, or the end of the connection. -/
inductive Trigger
  | read (signal : Signal)
  | startup
  | data (msg : SmallMessage)
  | shutdown
  | disconnect
  | ti
  | tr
  | ts
  | closed

/-- A trigger that reads takes the front of the path, any other leaves the path alone. -/
def Trigger.Takes : Trigger → List Signal → List Signal → Prop
  | .read signal, path, rest => path = signal :: rest
  | _, path, rest => path = rest

/-! ### Moves -/

/-- The triggers on which a phase gives the session up and sends nothing. -/
def Phase.releases : Phase → Trigger → Bool
  | .idle, .disconnect => true
  | .idPending, .ti | .idPending, .closed | .idPending, .disconnect => true
  | .acceptPending, .ti | .acceptPending, .closed | .acceptPending, .disconnect => true
  | .starting, .closed | .starting, .disconnect => true
  | .resting, .closed | .resting, .disconnect => true
  | .associationPending, .closed => true
  | _, _ => false

/-- The triggers on which a phase gives the session up with a shutdown. -/
def Phase.closes : Phase → Trigger → Bool
  | .associationPending, .disconnect => true
  | .dataReady, .closed | .dataReady, .disconnect | .dataReady, .tr => true
  | _, _ => false

/-- The proper moves of a party, with the signals they send. -/
inductive Move : Side → Phase → Trigger → Phase → List Signal → Prop
  | introduced : Move .server .idPending (.read .handshake) .acceptPending [.handshake]
  | recognised : Move .client .idPending (.read .handshake) .starting [.accept]
  | accepted {side : Side} : Move side .acceptPending (.read .accept) .starting []
  | started {side : Side} {phase : Phase} (ready : phase = .starting ∨ phase = .resting) :
      Move side phase .startup .associationPending [.startup]
  | associated {side : Side} :
      Move side .associationPending (.read .startup) .dataReady [.startup]
  | restarted {side : Side} : Move side .associationPending .tr .associationPending [.startup]
  | kept {side : Side} : Move side .dataReady .ts .dataReady [.heartbeat]
  | sent {side : Side} {msg : SmallMessage} :
      Move side .dataReady (.data msg) .dataReady [.data msg]
  | received {side : Side} {signal : Signal} (carries : signal.Carries) :
      Move side .dataReady (.read signal) .dataReady []
  | suspended {side : Side} :
      Move side .dataReady (.read .shutdown) .associationPending [.shutdown]
  | ignored {side : Side} {signal : Signal} (quiet : signal = .shutdown ∨ signal = .heartbeat) :
      Move side .resting (.read signal) .resting []
  | withdrawn {side : Side} {phase : Phase}
      (open_ : phase = .associationPending ∨ phase = .dataReady) :
      Move side phase .shutdown .resting [.shutdown]
  | released {side : Side} {phase : Phase} {trigger : Trigger}
      (gives : phase.releases trigger = true) : Move side phase trigger .idle []
  | closed {side : Side} {phase : Phase} {trigger : Trigger}
      (gives : phase.closes trigger = true) : Move side phase trigger .idle [.shutdown]

/-- A party between the identification and the end stays there or ends. -/
theorem Move.open_or_idle {side : Side} {phase phase' : Phase} {trigger : Trigger}
    {signals : List Signal} (move : Move side phase trigger phase' signals) (open_ : phase.Open) :
    phase'.Open ∨ phase' = .idle := by
  cases move with
  | introduced | recognised | accepted => exact absurd open_ not_false
  | released | closed => exact Or.inr rfl
  | started | associated | restarted | kept | sent | received | suspended | ignored
  | withdrawn => exact Or.inl trivial

/-- Only a party that waits for the identification reads a handshake. -/
theorem Move.greeted {side : Side} {phase phase' : Phase} {signals : List Signal}
    (move : Move side phase (.read .handshake) phase' signals) : phase = .idPending := by
  cases move with
  | introduced | recognised => rfl
  | received carries => exact absurd carries not_false
  | ignored quiet => rcases quiet with same | same <;> cases same
  | released gives | closed gives => cases phase <;> cases gives

/-! ### The configurations of a session -/

section Standings

variable (flows : Phase → List Signal → Phase → Prop)

/-- What a server may still read from a client that has gone. -/
inductive ServerLeft : List Signal → Phase → Prop
  | greeting : ServerLeft [.handshake] .idPending
  | silent : ServerLeft [] .acceptPending
  | accepting {rest : List Signal} (forth : flows .idle rest .starting) :
      ServerLeft (.accept :: rest) .acceptPending
  | talking {path : List Signal} {server : Phase} (open_ : server.Open)
      (forth : flows .idle path server) : ServerLeft path server
  | gone {path : List Signal} : ServerLeft path .idle

/-- What a client may still read from a server that has gone. -/
inductive ClientLeft : List Signal → Phase → Prop
  | silent : ClientLeft [] .idPending
  | answering : ClientLeft [.handshake] .idPending
  | talking {path : List Signal} {client : Phase} (open_ : client.Open)
      (back : flows .idle path client) : ClientLeft path client
  | gone {path : List Signal} : ClientLeft path .idle

/-- The configurations: the client, the path to the server, the server, the path to the
client. -/
inductive Standing : Phase → List Signal → Phase → List Signal → Prop
  | greeting : Standing .idPending [.handshake] .idPending []
  | answering : Standing .idPending [] .acceptPending [.handshake]
  | accepting {client : Phase} {rest : List Signal} (open_ : client.Open)
      (forth : flows client rest .starting) (back : flows .starting [] client) :
      Standing client (.accept :: rest) .acceptPending []
  | talking {client server : Phase} {toServer toClient : List Signal} (clientOpen : client.Open)
      (serverOpen : server.Open) (forth : flows client toServer server)
      (back : flows server toClient client) : Standing client toServer server toClient
  | clientGone {server : Phase} {toServer toClient : List Signal}
      (left : ServerLeft flows toServer server) : Standing .idle toServer server toClient
  | serverGone {client : Phase} {toServer toClient : List Signal}
      (left : ClientLeft flows toClient client) : Standing client toServer .idle toClient

/-- A flow is closed under the moves that `allowed` admits: it holds when two parties start, it
survives the silent end of its sender, and both directions survive the moves of either party,
while the other is there and after it has gone. -/
structure Admits (allowed : Phase → Trigger → Prop) : Prop where
  fresh : flows .starting [] .starting
  quit : ∀ {sender reader : Phase} {path : List Signal}, sender.Open →
    flows sender path reader → flows .idle path reader
  talk : ∀ {side : Side} {mine mine' theirs : Phase} {trigger : Trigger}
    {signals forth back rest : List Signal}, mine.Open → theirs.Open →
    Move side mine trigger mine' signals → allowed mine trigger → trigger.Takes back rest →
    flows mine forth theirs → flows theirs back mine →
    flows mine' (forth ++ signals) theirs ∧ (mine'.Open → flows theirs rest mine')
  last : ∀ {side : Side} {mine mine' : Phase} {trigger : Trigger}
    {signals back rest : List Signal}, mine.Open → Move side mine trigger mine' signals →
    allowed mine trigger → trigger.Takes back rest → flows .idle back mine → mine'.Open →
    flows .idle rest mine'

end Standings

/-- A trigger that takes something from an empty path reads nothing. -/
theorem Trigger.Takes.nil {trigger : Trigger} {rest : List Signal}
    (takes : trigger.Takes [] rest) : (∀ signal, trigger ≠ .read signal) ∧ rest = [] := by
  cases trigger with
  | read signal => cases takes
  | _ => exact ⟨nofun, Eq.symm takes⟩

/-- The front of a path is what a reading trigger takes. -/
theorem Trigger.Takes.read {signal front : Signal} {path rest : List Signal}
    (takes : Trigger.Takes (.read signal) (front :: path) rest) : front = signal ∧ path = rest :=
  List.cons.inj takes

namespace Standing

variable {flows : Phase → List Signal → Phase → Prop} {allowed : Phase → Trigger → Prop}
  {client client' server server' : Phase} {toServer toClient signals rest : List Signal}
  {trigger : Trigger}

/-- A party still waiting for identification moves on by a handshake or ends. -/
theorem idPending_cases {side : Side} {phase' : Phase}
    (move : Move side .idPending trigger phase' signals) :
    (side = .server ∧ trigger = .read .handshake ∧ phase' = .acceptPending ∧
        signals = [.handshake]) ∨
      (side = .client ∧ trigger = .read .handshake ∧ phase' = .starting ∧ signals = [.accept]) ∨
      (phase' = .idle ∧ signals = [] ∧ ∀ signal, trigger ≠ .read signal) := by
  cases move with
  | introduced => exact Or.inl ⟨rfl, rfl, rfl, rfl⟩
  | recognised => exact Or.inr (Or.inl ⟨rfl, rfl, rfl, rfl⟩)
  | started ready => rcases ready with same | same <;> cases same
  | withdrawn open_ => rcases open_ with same | same <;> cases same
  | released gives =>
    refine Or.inr (Or.inr ⟨rfl, rfl, ?_⟩)
    rintro signal rfl
    cases gives
  | closed gives => cases gives

/-- A party waiting for the acceptance moves on by it or ends. -/
theorem acceptPending_cases {side : Side} {phase' : Phase}
    (move : Move side .acceptPending trigger phase' signals) :
    (trigger = .read .accept ∧ phase' = .starting ∧ signals = []) ∨
      (phase' = .idle ∧ signals = [] ∧ ∀ signal, trigger ≠ .read signal) := by
  cases move with
  | accepted => exact Or.inl ⟨rfl, rfl, rfl⟩
  | started ready => rcases ready with same | same <;> cases same
  | withdrawn open_ => rcases open_ with same | same <;> cases same
  | released gives =>
    refine Or.inr ⟨rfl, rfl, ?_⟩
    rintro signal rfl
    cases gives
  | closed gives => cases gives

/-- A party that has gone stays away. -/
theorem idle_cases {side : Side} {phase' : Phase} (move : Move side .idle trigger phase' signals) :
    phase' = .idle ∧ signals = [] := by
  cases move with
  | started ready => rcases ready with same | same <;> cases same
  | withdrawn open_ => rcases open_ with same | same <;> cases same
  | released gives => exact ⟨rfl, rfl⟩
  | closed gives => cases gives

/-- Every allowed move of the client keeps the session in one of its configurations. -/
theorem client_moves (admits : Admits flows allowed)
    (standing : Standing flows client toServer server toClient)
    (move : Move .client client trigger client' signals) (may : allowed client trigger)
    (takes : trigger.Takes toClient rest) :
    Standing flows client' (toServer ++ signals) server rest := by
  cases standing with
  | greeting =>
    obtain ⟨silent, rfl⟩ := takes.nil
    rcases idPending_cases move with ⟨side, _⟩ | ⟨_, reads, _⟩ | ⟨rfl, rfl, _⟩
    · cases side
    · exact absurd reads (silent _)
    · exact .clientGone .greeting
  | answering =>
    rcases idPending_cases move with ⟨side, _⟩ | ⟨_, rfl, rfl, rfl⟩ | ⟨rfl, rfl, silent⟩
    · cases side
    · obtain ⟨_, rfl⟩ := takes.read
      exact .accepting trivial admits.fresh admits.fresh
    · exact .clientGone .silent
  | accepting open_ forth back =>
    obtain ⟨_, rfl⟩ := takes.nil
    obtain ⟨forth', back'⟩ := admits.talk open_ Phase.open_starting move may takes forth back
    rcases move.open_or_idle open_ with still | rfl
    · exact .accepting still forth' (back' still)
    · exact .clientGone (.accepting forth')
  | talking clientOpen serverOpen forth back =>
    obtain ⟨forth', back'⟩ := admits.talk clientOpen serverOpen move may takes forth back
    rcases move.open_or_idle clientOpen with still | rfl
    · exact .talking still serverOpen forth' (back' still)
    · exact .clientGone (.talking serverOpen forth')
  | clientGone left =>
    obtain ⟨rfl, rfl⟩ := idle_cases move
    rw [List.append_nil]
    exact .clientGone left
  | serverGone left =>
    refine .serverGone ?_
    cases left with
    | silent =>
      obtain ⟨silent, rfl⟩ := takes.nil
      rcases idPending_cases move with ⟨side, _⟩ | ⟨_, reads, _⟩ | ⟨rfl, _, _⟩
      · cases side
      · exact absurd reads (silent _)
      · exact .gone
    | answering =>
      rcases idPending_cases move with ⟨side, _⟩ | ⟨_, rfl, rfl, _⟩ | ⟨rfl, _, _⟩
      · cases side
      · obtain ⟨_, rfl⟩ := takes.read
        exact .talking trivial (admits.quit Phase.open_starting admits.fresh)
      · exact .gone
    | talking open_ back =>
      rcases move.open_or_idle open_ with still | rfl
      · exact .talking still (admits.last open_ move may takes back still)
      · exact .gone
    | gone =>
      obtain ⟨rfl, _⟩ := idle_cases move
      exact .gone

/-- Every allowed move of the server keeps the session in one of its configurations. -/
theorem server_moves (admits : Admits flows allowed)
    (standing : Standing flows client toServer server toClient)
    (move : Move .server server trigger server' signals) (may : allowed server trigger)
    (takes : trigger.Takes toServer rest) :
    Standing flows client rest server' (toClient ++ signals) := by
  cases standing with
  | greeting =>
    rcases idPending_cases move with ⟨_, rfl, rfl, rfl⟩ | ⟨side, _⟩ | ⟨rfl, rfl, silent⟩
    · obtain ⟨_, rfl⟩ := takes.read
      exact .answering
    · cases side
    · exact .serverGone .silent
  | answering =>
    obtain ⟨silent, rfl⟩ := takes.nil
    rcases acceptPending_cases move with ⟨reads, _⟩ | ⟨rfl, rfl, _⟩
    · exact absurd reads (silent _)
    · exact .serverGone .answering
  | accepting open_ forth back =>
    rcases acceptPending_cases move with ⟨rfl, rfl, rfl⟩ | ⟨rfl, rfl, silent⟩
    · obtain ⟨_, rfl⟩ := takes.read
      exact .talking open_ trivial forth back
    · exact .serverGone (.talking open_ (admits.quit Phase.open_starting back))
  | talking clientOpen serverOpen forth back =>
    obtain ⟨back', forth'⟩ := admits.talk serverOpen clientOpen move may takes back forth
    rcases move.open_or_idle serverOpen with still | rfl
    · exact .talking clientOpen still (forth' still) back'
    · exact .serverGone (.talking clientOpen back')
  | clientGone left =>
    refine .clientGone ?_
    cases left with
    | greeting =>
      rcases idPending_cases move with ⟨_, rfl, rfl, _⟩ | ⟨side, _⟩ | ⟨rfl, _, _⟩
      · obtain ⟨_, rfl⟩ := takes.read
        exact .silent
      · cases side
      · exact .gone
    | silent =>
      obtain ⟨silent, rfl⟩ := takes.nil
      rcases acceptPending_cases move with ⟨reads, _⟩ | ⟨rfl, _, _⟩
      · exact absurd reads (silent _)
      · exact .gone
    | accepting forth =>
      rcases acceptPending_cases move with ⟨rfl, rfl, _⟩ | ⟨rfl, _, _⟩
      · obtain ⟨_, rfl⟩ := takes.read
        exact .talking trivial forth
      · exact .gone
    | talking open_ forth =>
      rcases move.open_or_idle open_ with still | rfl
      · exact .talking still (admits.last open_ move may takes forth still)
      · exact .gone
    | gone =>
      obtain ⟨rfl, _⟩ := idle_cases move
      exact .gone
  | serverGone left =>
    obtain ⟨rfl, rfl⟩ := idle_cases move
    rw [List.append_nil]
    exact .serverGone left

end Standing

/-! ### The loose flow: nothing of the identification is left -/

def Loose (_sender : Phase) (path : List Signal) (_reader : Phase) : Prop :=
  ∀ signal ∈ path, signal.Associates

/-- After the identification a party only sends what belongs to the association. -/
theorem Move.associates {side : Side} {phase phase' : Phase} {trigger : Trigger}
    {signals : List Signal} (open_ : phase.Open)
    (move : Move side phase trigger phase' signals) :
    ∀ signal ∈ signals, signal.Associates := by
  intro signal member
  cases move with
  | introduced | recognised | accepted => exact absurd open_ not_false
  | received | ignored | released => exact absurd member List.not_mem_nil
  | started | associated | restarted | kept | sent | suspended | withdrawn | closed =>
    rw [List.mem_singleton] at member
    subst member
    trivial

theorem Trigger.Takes.subset {trigger : Trigger} {path rest : List Signal}
    (takes : trigger.Takes path rest) : rest ⊆ path := by
  cases trigger with
  | read signal =>
    obtain rfl : path = signal :: rest := takes
    exact List.subset_cons_self signal rest
  | _ =>
    obtain rfl : path = rest := takes
    exact List.Subset.refl path

theorem admits_loose : Admits Loose fun _ _ => True where
  fresh := List.forall_mem_nil _
  quit _ flow := flow
  talk open_ _ move _ takes forth back := by
    refine ⟨?_, fun _ signal member => back signal (takes.subset member)⟩
    intro signal member
    rcases List.mem_append.mp member with old | new
    · exact forth signal old
    · exact move.associates open_ signal new
  last _ _ _ takes back _ := fun signal member => back signal (takes.subset member)

/-! ### Reading and colliding -/

/-- The phases that read. A party that starts associates first. -/
def Phase.Reads : Phase → Prop
  | .idPending | .acceptPending | .resting | .associationPending | .dataReady => True
  | .idle | .connectionPending | .starting | .error => False

instance (phase : Phase) : Decidable phase.Reads := by
  cases phase <;> first
    | exact .isTrue trivial
    | exact .isFalse not_false

/-- The signals of the association that a phase has no move for. -/
def Phase.collides : Phase → Signal → Bool
  | .resting, .startup | .resting, .data _ => true
  | .associationPending, .shutdown | .associationPending, .heartbeat
  | .associationPending, .data _ => true
  | _, _ => false

theorem Phase.collides_handshake (phase : Phase) : phase.collides .handshake = false := by
  cases phase <;> rfl

/-- An identified party that reads moves or collides. -/
theorem Phase.Open.reads {side : Side} {phase : Phase} {signal : Signal} (open_ : phase.Open)
    (reads : phase.Reads) (associates : signal.Associates) :
    phase.collides signal = true ∨
      ∃ phase' signals, Move side phase (.read signal) phase' signals := by
  cases phase with
  | idle | connectionPending | idPending | acceptPending | error => exact absurd open_ not_false
  | starting => exact absurd reads not_false
  | resting =>
    cases signal with
    | handshake | accept => exact absurd associates not_false
    | startup | data => exact Or.inl rfl
    | shutdown => exact Or.inr ⟨_, _, .ignored (Or.inl rfl)⟩
    | heartbeat => exact Or.inr ⟨_, _, .ignored (Or.inr rfl)⟩
  | associationPending =>
    cases signal with
    | handshake | accept => exact absurd associates not_false
    | shutdown | heartbeat | data => exact Or.inl rfl
    | startup => exact Or.inr ⟨_, _, .associated⟩
  | dataReady =>
    cases signal with
    | handshake | accept => exact absurd associates not_false
    | startup | heartbeat | data => exact Or.inr ⟨_, _, .received trivial⟩
    | shutdown => exact Or.inr ⟨_, _, .suspended⟩

namespace Standing

variable {client server : Phase} {toServer toClient rest : List Signal} {signal : Signal}

/-- In every configuration the client has a move for what it reads, or collides with it. -/
theorem client_reads (standing : Standing Loose client toServer server (signal :: rest))
    (reads : client.Reads) :
    client.collides signal = true ∨
      ∃ phase' signals, Move .client client (.read signal) phase' signals := by
  cases standing with
  | answering => exact Or.inr ⟨_, _, .recognised⟩
  | talking clientOpen _ _ back => exact clientOpen.reads reads (back signal List.mem_cons_self)
  | clientGone => exact absurd reads not_false
  | serverGone left =>
    cases left with
    | answering => exact Or.inr ⟨_, _, .recognised⟩
    | talking open_ back => exact open_.reads reads (back signal List.mem_cons_self)
    | gone => exact absurd reads not_false

/-- In every configuration the server has a move for what it reads, or collides with it. -/
theorem server_reads (standing : Standing Loose client (signal :: rest) server toClient)
    (reads : server.Reads) :
    server.collides signal = true ∨
      ∃ phase' signals, Move .server server (.read signal) phase' signals := by
  cases standing with
  | greeting => exact Or.inr ⟨_, _, .introduced⟩
  | accepting => exact Or.inr ⟨_, _, .accepted⟩
  | talking _ serverOpen forth => exact serverOpen.reads reads (forth signal List.mem_cons_self)
  | serverGone => exact absurd reads not_false
  | clientGone left =>
    cases left with
    | greeting => exact Or.inr ⟨_, _, .introduced⟩
    | accepting => exact Or.inr ⟨_, _, .accepted⟩
    | talking open_ forth => exact open_.reads reads (forth signal List.mem_cons_self)
    | gone => exact absurd reads not_false

/-- An identified client reads from a flow. -/
theorem client_flow {flows : Phase → List Signal → Phase → Prop}
    (standing : Standing flows client toServer server toClient) (open_ : client.Open) :
    ∃ sender, flows sender toClient client := by
  cases standing with
  | greeting | answering | clientGone => exact absurd open_ not_false
  | accepting _ _ back | talking _ _ _ back => exact ⟨_, back⟩
  | serverGone left =>
    cases left with
    | silent | answering | gone => exact absurd open_ not_false
    | talking _ back => exact ⟨_, back⟩

/-- An identified server reads from a flow. -/
theorem server_flow {flows : Phase → List Signal → Phase → Prop}
    (standing : Standing flows client toServer server toClient) (open_ : server.Open) :
    ∃ sender, flows sender toServer server := by
  cases standing with
  | greeting | answering | accepting | serverGone => exact absurd open_ not_false
  | talking _ _ forth => exact ⟨_, forth⟩
  | clientGone left =>
    cases left with
    | greeting | silent | accepting | gone => exact absurd open_ not_false
    | talking _ forth => exact ⟨_, forth⟩

end Standing

/-! ### The strict flow: a startup first, a shutdown last -/

/-- Signals that carry the association, closed by a shutdown only if the sender has gone. -/
def Steady (sender : Phase) (path : List Signal) : Prop :=
  ∃ body : List Signal, (∀ signal ∈ body, signal.Carries) ∧
    (path = body ∨ sender = .idle ∧ path = body ++ [.shutdown])

/-- A sender that associates has sent a startup first; one that has not yet sent nothing. -/
def Opening (sender : Phase) (path : List Signal) : Prop :=
  match sender with
  | .associationPending | .dataReady => ∃ rest, path = .startup :: rest ∧ Steady sender rest
  | .idle => path = [] ∨ ∃ rest, path = .startup :: rest ∧ Steady .idle rest
  | _ => path = []

/-- What flows in a session without a user's shutdown: no party ever rests, a party that is not
yet associated has the sender's startup before it, an associated one reads on. -/
def Strict (sender : Phase) (path : List Signal) (reader : Phase) : Prop :=
  match reader with
  | .starting | .associationPending => Opening sender path
  | .dataReady => Steady sender path
  | _ => False

namespace Steady

variable {sender : Phase} {path : List Signal} {signal : Signal}

theorem nil : Steady sender [] :=
  ⟨[], List.forall_mem_nil _, Or.inl rfl⟩

theorem append (steady : Steady sender path) (present : sender ≠ .idle)
    (carries : signal.Carries) (sender' : Phase) : Steady sender' (path ++ [signal]) := by
  obtain ⟨body, each, rfl | ⟨gone, _⟩⟩ := steady
  · refine ⟨path ++ [signal], ?_, Or.inl rfl⟩
    intro other member
    rcases List.mem_append.mp member with old | new
    · exact each other old
    · rw [List.mem_singleton] at new
      exact new ▸ carries
  · exact absurd gone present

/-- A sender that is there can change its phase. -/
theorem move (steady : Steady sender path) (present : sender ≠ .idle) (sender' : Phase) :
    Steady sender' path := by
  obtain ⟨body, each, rfl | ⟨gone, _⟩⟩ := steady
  · exact ⟨path, each, Or.inl rfl⟩
  · exact absurd gone present

theorem shut (steady : Steady sender path) (present : sender ≠ .idle) :
    Steady .idle (path ++ [.shutdown]) := by
  obtain ⟨body, each, rfl | ⟨gone, _⟩⟩ := steady
  · exact ⟨path, each, Or.inr ⟨rfl, rfl⟩⟩
  · exact absurd gone present

/-- What follows the front of a steady path is steady. -/
theorem tail (steady : Steady sender (signal :: path)) (carries : signal.Carries) :
    Steady sender path := by
  obtain ⟨body, each, same | ⟨gone, same⟩⟩ := steady
  · obtain rfl := same
    exact ⟨path, fun other member => each other (List.mem_cons_of_mem signal member), Or.inl rfl⟩
  · cases body with
    | nil =>
      obtain ⟨rfl, _⟩ := List.cons.inj same
      exact absurd carries not_false
    | cons front rest =>
      obtain ⟨rfl, rfl⟩ := List.cons.inj same
      exact ⟨rest, fun other member => each other (List.mem_cons_of_mem signal member),
        Or.inr ⟨gone, rfl⟩⟩

/-- A shutdown is the last signal of a sender that has gone. -/
theorem shutdown (steady : Steady sender (.shutdown :: path)) : sender = .idle ∧ path = [] := by
  obtain ⟨body, each, same | ⟨gone, same⟩⟩ := steady
  · obtain rfl := same
    exact absurd (each .shutdown List.mem_cons_self) not_false
  · cases body with
    | nil => exact ⟨gone, (List.cons.inj same).2⟩
    | cons front rest =>
      obtain ⟨rfl, _⟩ := List.cons.inj same
      exact absurd (each .shutdown List.mem_cons_self) not_false

end Steady

/-- The phases in which a party has sent its startup. -/
def Phase.Active (phase : Phase) : Prop :=
  phase = .associationPending ∨ phase = .dataReady

theorem Phase.Active.present {phase : Phase} (active : phase.Active) : phase ≠ .idle := by
  rcases active with rfl | rfl <;> nofun

theorem opening_active {sender : Phase} {path : List Signal} (active : sender.Active) :
    Opening sender path ↔ ∃ rest, path = .startup :: rest ∧ Steady sender rest := by
  rcases active with rfl | rfl <;> exact Iff.rfl

/-- What follows the startup of any sender is steady. -/
theorem Opening.tail {sender : Phase} {rest : List Signal}
    (opening : Opening sender (.startup :: rest)) : Steady sender rest := by
  have cut : ∀ {later : List Signal} {sender : Phase},
      Signal.startup :: rest = .startup :: later → Steady sender later → Steady sender rest := by
    intro later sender same steady
    rw [(List.cons.inj same).2]
    exact steady
  cases sender with
  | associationPending | dataReady =>
    obtain ⟨later, same, steady⟩ := opening
    exact cut same steady
  | idle =>
    rcases opening with empty | ⟨later, same, steady⟩
    · cases empty
    · exact cut same steady
  | connectionPending | idPending | acceptPending | starting | resting | error => cases opening

namespace Strict

variable {sender sender' reader : Phase} {path rest : List Signal} {signal : Signal}

/-- No strict flow reaches a reader that rests. -/
theorem reader_cases (strict : Strict sender path reader) :
    (reader = .starting ∨ reader = .associationPending) ∧ Opening sender path ∨
      reader = .dataReady ∧ Steady sender path := by
  cases reader with
  | starting => exact Or.inl ⟨Or.inl rfl, strict⟩
  | associationPending => exact Or.inl ⟨Or.inr rfl, strict⟩
  | dataReady => exact Or.inr ⟨rfl, strict⟩
  | idle | connectionPending | idPending | acceptPending | resting | error =>
    exact absurd strict not_false

theorem of_opening (early : reader = .starting ∨ reader = .associationPending)
    (opening : Opening sender path) : Strict sender path reader := by
  rcases early with rfl | rfl <;> exact opening

/-- Nothing that flows collides with its reader. -/
theorem clear (strict : Strict sender (signal :: path) reader) :
    reader.collides signal = false := by
  rcases strict.reader_cases with ⟨rfl | rfl, opening⟩ | ⟨rfl, _⟩
  · rfl
  · have first : signal = .startup := by
      cases sender with
      | associationPending | dataReady =>
        obtain ⟨_, same, _⟩ := opening
        exact (List.cons.inj same).1
      | idle =>
        rcases opening with empty | ⟨_, same, _⟩
        · cases empty
        · exact (List.cons.inj same).1
      | connectionPending | idPending | acceptPending | starting | resting | error =>
        cases opening
    rw [first]
    rfl
  · rfl

/-- The first startup. -/
theorem start (strict : Strict sender path reader)
    (ready : sender = .starting ∨ sender = .resting) :
    Strict .associationPending (path ++ [.startup]) reader := by
  rcases strict.reader_cases with ⟨early, opening⟩ | ⟨rfl, steady⟩
  · have empty : path = [] := by rcases ready with rfl | rfl <;> exact opening
    subst empty
    exact of_opening early ⟨[], rfl, .nil⟩
  · have present : sender ≠ .idle := by rcases ready with rfl | rfl <;> nofun
    have carries : Signal.startup.Carries := trivial
    exact steady.append present carries .associationPending

/-- A party that has sent its startup goes on sending. -/
theorem extend (strict : Strict sender path reader) (active : sender.Active)
    (active' : sender'.Active) (carries : signal.Carries) :
    Strict sender' (path ++ [signal]) reader := by
  rcases strict.reader_cases with ⟨early, opening⟩ | ⟨rfl, steady⟩
  · obtain ⟨rest, rfl, steady⟩ := (opening_active active).mp opening
    refine of_opening early ((opening_active active').mpr ⟨rest ++ [signal], rfl, ?_⟩)
    exact steady.append active.present carries sender'
  · exact steady.append active.present carries sender'

/-- A party that has sent its startup closes with a shutdown. -/
theorem shut (strict : Strict sender path reader) (active : sender.Active) :
    Strict .idle (path ++ [.shutdown]) reader := by
  rcases strict.reader_cases with ⟨early, opening⟩ | ⟨rfl, steady⟩
  · obtain ⟨rest, rfl, steady⟩ := (opening_active active).mp opening
    exact of_opening early (Or.inr ⟨rest ++ [.shutdown], rfl, steady.shut active.present⟩)
  · exact steady.shut active.present

/-- A party that ends silently leaves what it sent. -/
theorem quit (strict : Strict sender path reader) (open_ : sender.Open) :
    Strict .idle path reader := by
  rcases strict.reader_cases with ⟨early, opening⟩ | ⟨rfl, steady⟩
  · refine of_opening early ?_
    cases sender with
    | starting | resting => exact Or.inl opening
    | associationPending | dataReady =>
      obtain ⟨rest, same, steady⟩ := opening
      exact Or.inr ⟨rest, same, steady.move nofun .idle⟩
    | idle | connectionPending | idPending | acceptPending | error =>
      exact absurd open_ not_false
  · refine steady.move ?_ .idle
    rintro rfl
    exact absurd open_ not_false

/-- What a party reads as long as nobody asks for a shutdown, and what is left to read. -/
theorem read {side : Side} {phase' : Phase} {trigger : Trigger} {signals : List Signal}
    (strict : Strict sender path reader) (move : Move side reader trigger phase' signals)
    (unstopped : trigger ≠ .shutdown) (takes : trigger.Takes path rest) (open_ : phase'.Open) :
    Strict sender rest phase' ∧ (trigger = .read .shutdown → sender = .idle) := by
  cases move with
  | introduced | recognised | accepted => exact absurd strict not_false
  | started ready =>
    obtain rfl : path = rest := takes
    rcases ready with rfl | rfl
    · exact ⟨strict, nofun⟩
    · exact absurd strict not_false
  | associated =>
    obtain rfl : path = .startup :: rest := takes
    exact ⟨Opening.tail strict, nofun⟩
  | restarted | kept | sent =>
    obtain rfl : path = rest := takes
    exact ⟨strict, nofun⟩
  | @received _ signal carries =>
    obtain rfl : path = signal :: rest := takes
    refine ⟨Steady.tail strict carries, ?_⟩
    rintro same
    cases same
    exact absurd carries not_false
  | suspended =>
    obtain rfl : path = .shutdown :: rest := takes
    obtain ⟨rfl, rfl⟩ := Steady.shutdown strict
    exact ⟨Or.inl rfl, fun _ => rfl⟩
  | ignored => exact absurd strict not_false
  | withdrawn => exact absurd rfl unstopped
  | released | closed => exact absurd open_ not_false

end Strict

/-- Without a user's shutdown the flow stays strict. -/
theorem admits_strict : Admits Strict fun _ trigger => trigger ≠ .shutdown where
  fresh := rfl
  quit open_ flow := flow.quit open_
  last _ move may takes back open_ := (back.read move may takes open_).1
  talk {side mine mine' theirs trigger signals forth back rest} open_ present move may takes
      strict reverse := by
    refine ⟨?_, fun open_ => (reverse.read move may takes open_).1⟩
    have reads := reverse.read move may takes
    cases move with
    | introduced | recognised | accepted => exact absurd open_ not_false
    | started ready => exact strict.start ready
    | associated => exact strict.extend (Or.inl rfl) (Or.inr rfl) trivial
    | restarted => exact strict.extend (Or.inl rfl) (Or.inl rfl) trivial
    | kept | sent => exact strict.extend (Or.inr rfl) (Or.inr rfl) trivial
    | received | ignored =>
      rw [List.append_nil]
      exact strict
    | suspended =>
      -- Only a sender that has gone closes with a shutdown, and this one is there.
      have gone : theirs = .idle := (reads trivial).2 rfl
      subst gone
      exact absurd present not_false
    | withdrawn => exact absurd rfl may
    | released =>
      rw [List.append_nil]
      exact strict.quit open_
    | closed gives =>
      refine strict.shut ?_
      cases mine with
      | associationPending => exact Or.inl rfl
      | dataReady => exact Or.inr rfl
      | idle | connectionPending | idPending | acceptPending | starting | resting | error =>
        cases gives

/-! ### Sessions -/

/-- The messages a trigger brings from the user of the party. -/
def Trigger.gives : Trigger → List FmtpMessage
  | .data msg => [msg.1]
  | _ => []

/-- The messages a trigger brings to the user of the party. -/
def Trigger.delivers : Trigger → List FmtpMessage
  | .read (.data msg) => [msg.1]
  | _ => []

/-- The messages under way on a path. -/
def messages (path : List Signal) : List FmtpMessage :=
  path.filterMap fun
    | .data msg => some msg.1
    | _ => none

theorem messages_append (path later : List Signal) :
    messages (path ++ later) = messages path ++ messages later :=
  List.filterMap_append

/-- A move sends the messages that the user gives. -/
theorem Move.messages_sent {side : Side} {phase phase' : Phase} {trigger : Trigger}
    {signals : List Signal} (move : Move side phase trigger phase' signals) :
    messages signals = trigger.gives := by
  cases move with
  | introduced | recognised | accepted | associated | restarted | kept | sent | suspended
  | received | ignored => rfl
  | started | withdrawn => rfl
  | released gives =>
    cases trigger with
    | data msg => cases phase <;> cases gives
    | _ => rfl
  | closed gives =>
    cases trigger with
    | data msg => cases phase <;> cases gives
    | _ => rfl

/-- What a party takes from its path are the messages it gives to its user. -/
theorem Trigger.Takes.messages {trigger : Trigger} {path rest : List Signal}
    (takes : trigger.Takes path rest) : messages path = trigger.delivers ++ messages rest := by
  cases trigger with
  | read signal =>
    obtain rfl : path = signal :: rest := takes
    cases signal <;> rfl
  | _ =>
    obtain rfl : path = rest := takes
    rfl

/-- Two parties: their phases, what each has sent and the other has not read, what each was
given by its user and what each gave to its user. -/
structure Session where
  phase : Side → Phase
  path : Side → List Signal
  given : Side → List FmtpMessage
  received : Side → List FmtpMessage

namespace Session

/-- The session after a move of a side. -/
def advance (session : Session) (side : Side) (trigger : Trigger) (phase : Phase)
    (signals rest : List Signal) : Session where
  phase := Function.update session.phase side phase
  path := Function.update (Function.update session.path side (session.path side ++ signals))
    side.other rest
  given := Function.update session.given side (session.given side ++ trigger.gives)
  received := Function.update session.received side (session.received side ++ trigger.delivers)

/-- The session is in one of its configurations. -/
def Configured (flows : Phase → List Signal → Phase → Prop) (session : Session) : Prop :=
  Standing flows (session.phase .client) (session.path .client) (session.phase .server)
    (session.path .server)

/-- What a side was given is what the other side gave to its user and what is under way. -/
def Accounted (session : Session) : Prop :=
  ∀ side : Side, session.given side = session.received side.other ++ messages (session.path side)

/-- Two parties right after their setup: the client has greeted. -/
def fresh : Session where
  phase _ := .idPending
  path
    | .client => [.handshake]
    | .server => []
  given _ := []
  received _ := []

/-- A side moves on a trigger. -/
def Step (session : Session) (side : Side) (trigger : Trigger) (session' : Session) : Prop :=
  ∃ phase signals rest, Move side (session.phase side) trigger phase signals ∧
    trigger.Takes (session.path side.other) rest ∧
    session' = session.advance side trigger phase signals rest

theorem fresh_configured (flows : Phase → List Signal → Phase → Prop) :
    fresh.Configured flows :=
  .greeting

theorem fresh_accounted : fresh.Accounted
  | .client => rfl
  | .server => rfl

variable {session session' : Session} {side : Side} {trigger : Trigger} {phase : Phase}
  {signals rest : List Signal}

theorem Configured.step {flows : Phase → List Signal → Phase → Prop}
    {allowed : Phase → Trigger → Prop} (admits : Admits flows allowed)
    (configured : session.Configured flows) (may : allowed (session.phase side) trigger)
    (step : session.Step side trigger session') : session'.Configured flows := by
  obtain ⟨phase, signals, rest, move, takes, rfl⟩ := step
  cases side with
  | client => exact Standing.client_moves admits configured move may takes
  | server => exact Standing.server_moves admits configured move may takes

/-- Whoever reads in a configured session has a move or collides. -/
theorem Configured.reads (configured : session.Configured Loose)
    (reads : (session.phase side).Reads) {signal : Signal}
    (front : session.path side.other = signal :: rest) :
    (session.phase side).collides signal = true ∨
      ∃ phase' signals, Move side (session.phase side) (.read signal) phase' signals := by
  unfold Configured at configured
  cases side with
  | client =>
    rw [show session.path .server = signal :: rest from front] at configured
    exact configured.client_reads reads
  | server =>
    rw [show session.path .client = signal :: rest from front] at configured
    exact configured.server_reads reads

/-- Nobody collides in a strict session. -/
theorem Configured.clear (configured : session.Configured Strict) {signal : Signal}
    (front : session.path side.other = signal :: rest) :
    (session.phase side).collides signal = false := by
  by_cases open_ : (session.phase side).Open
  · have flow : ∃ sender, Strict sender (session.path side.other) (session.phase side) := by
      cases side with
      | client => exact Standing.client_flow configured open_
      | server => exact Standing.server_flow configured open_
    obtain ⟨_, strict⟩ := flow
    rw [front] at strict
    exact strict.clear
  · revert open_
    generalize session.phase side = phase
    intro open_
    cases phase with
    | starting | resting | associationPending | dataReady => exact absurd trivial open_
    | idle | connectionPending | idPending | acceptPending | error => rfl

/-- Every move keeps the account of the messages of both sides. -/
theorem Accounted.step (accounted : session.Accounted)
    (step : session.Step side trigger session') : session'.Accounted := by
  obtain ⟨phase, signals, rest, move, takes, rfl⟩ := step
  have distinct : side ≠ side.other := side.other_ne.symm
  intro which
  rcases side.eq_or_other which with rfl | rfl
  · have mine := accounted which
    simp only [advance, Function.update_self, Function.update_of_ne which.other_ne,
      Function.update_of_ne distinct]
    rw [mine, messages_append, move.messages_sent, List.append_assoc]
  · have theirs := accounted side.other
    simp only [advance, Side.other_other, Function.update_self,
      Function.update_of_ne side.other_ne]
    rw [Side.other_other, takes.messages] at theirs
    rw [theirs, List.append_assoc]

/-! ### Sessions without an end -/

/-- The triggers of a session that goes on: reading, data, and the timers that keep it going. -/
def Calm : Phase → Trigger → Prop
  | _, .read _ | _, .startup | _, .data _ | _, .ts => True
  | .associationPending, .tr => True
  | _, _ => False

theorem Calm.keeps (calm : Calm phase trigger) :
    phase.releases trigger = false ∧ phase.closes trigger = false := by
  cases phase <;> cases trigger <;> first
    | exact ⟨rfl, rfl⟩
    | exact absurd calm not_false

/-- A calm move does not end the session. -/
theorem Calm.present {phase' : Phase} (calm : Calm phase trigger)
    (move : Move side phase trigger phase' signals) : phase' ≠ .idle := by
  cases move with
  | released gives => cases gives.symm.trans calm.keeps.1
  | closed gives => cases gives.symm.trans calm.keeps.2
  | introduced | recognised | accepted | started | associated | restarted | kept | sent
  | received | suspended | ignored | withdrawn => nofun

/-- After a calm move both sides are still there. -/
theorem Calm.step (calm : Calm (session.phase side) trigger)
    (present : ∀ side, session.phase side ≠ .idle) (step : session.Step side trigger session') :
    ∀ side, session'.phase side ≠ .idle := by
  obtain ⟨phase, signals, rest, move, _, rfl⟩ := step
  intro which
  rcases side.eq_or_other which with rfl | rfl
  · simpa only [advance, Function.update_self] using calm.present move
  · simpa only [advance, Function.update_of_ne side.other_ne] using present side.other

/-- A party of a strict session that has nothing to read and is not about to associate is
associated. -/
theorem agreement_of_drained {mine theirs : Phase} (back : Strict theirs [] mine)
    (present : theirs ≠ .idle) (forth : Strict mine [] theirs) (settled : theirs ≠ .starting)
    (mineSettled : mine ≠ .starting) : mine = .dataReady := by
  rcases back.reader_cases with ⟨rfl | rfl, opening⟩ | ⟨ready, _⟩
  · exact absurd rfl mineSettled
  · -- Whoever reads on has sent its startup, and the path has none left.
    exfalso
    rcases forth.reader_cases with ⟨rfl | rfl, _⟩ | ⟨rfl, _⟩
    · exact settled rfl
    · obtain ⟨rest, same, _⟩ := opening
      cases same
    · obtain ⟨rest, same, _⟩ := opening
      cases same
  · exact ready

/-- Where nothing is under way between two parties of a strict session and none of them is about
to associate, both are associated. -/
theorem Configured.agreement (configured : session.Configured Strict)
    (present : ∀ side, session.phase side ≠ .idle) (drained : ∀ side, session.path side = [])
    (settled : ∀ side, session.phase side ≠ .starting) (side : Side) :
    session.phase side = .dataReady := by
  have standing := configured
  unfold Configured at standing
  rw [drained .client, drained .server] at standing
  suffices both : session.phase .client = .dataReady ∧ session.phase .server = .dataReady by
    cases side with
    | client => exact both.1
    | server => exact both.2
  have clientPresent := present .client
  have serverPresent := present .server
  have clientSettled := settled .client
  have serverSettled := settled .server
  revert standing clientPresent serverPresent clientSettled serverSettled
  generalize session.phase .client = client, session.phase .server = server
  intro standing clientPresent serverPresent clientSettled serverSettled
  cases standing with
  | talking clientOpen serverOpen forth back =>
    exact ⟨agreement_of_drained back serverPresent forth serverSettled clientSettled,
      agreement_of_drained forth clientPresent back clientSettled serverSettled⟩
  | clientGone => exact absurd rfl clientPresent
  | serverGone => exact absurd rfl serverPresent

end Session

end Fmtp

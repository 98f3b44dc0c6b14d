/-
This file is the relay library: a producer that sends what it produces over a bounded channel to
a relay, which forwards some of the items into a bounded store that nobody empties.

Everything produced is kept in order: it was taken by the relay, or is in the channel, or has yet
to be sent. The relay stops for good at the first item that the store has no room for, and the
producer stops as soon as the channel is full behind it. So some schedule wedges the two exactly
where more is produced after that item than the channel holds.
-/

import Fmtp.Transition

namespace Relay

open TransitionSystem

variable {State Input Item : Type}

/-! ### The chain -/

/-- The producer's step and what it produces, the items that the relay forwards, and the two
capacities. -/
structure Design (State Input Item : Type) where
  step : State → Input → Option State
  produces : State → State → List Item
  forwards : Item → Bool
  channelSize : Nat
  storeSize : Nat

/-- The producer, the items of its last step that it has yet to send, the channel, the item that
the relay has in hand, the store, and as a ghost the items that the relay has taken. -/
structure Chain (State Item : Type) where
  producer : State
  pending : List Item
  channel : List Item
  hand : Option Item
  store : List Item
  taken : List Item

/-- The turns of a schedule: the producer takes a step or sends an item, the relay takes an item
or forwards the one in hand. -/
inductive Turn (Input : Type)
  | produce (input : Input)
  | send
  | take
  | forward

/-- The inputs that a schedule gives the producer. -/
def fed (turns : List (Turn Input)) : List Input :=
  turns.filterMap fun
    | .produce input => some input
    | .send | .take | .forward => none

namespace Chain

/-- Nothing has been produced. -/
def start (producer : State) : Chain State Item where
  producer
  pending := []
  channel := []
  hand := none
  store := []
  taken := []

/-- Everything produced so far. -/
def items (chain : Chain State Item) : List Item :=
  chain.taken ++ chain.channel ++ chain.pending

end Chain

namespace Design

variable (design : Design State Input Item)

/-- One turn. The producer steps on only when it has sent everything, both sends wait for room,
and the relay takes nothing while it has an item in hand. -/
def turn (chain : Chain State Item) : Turn Input → Option (Chain State Item)
  | .produce input =>
    match chain.pending with
    | [] =>
      (design.step chain.producer input).map fun producer =>
        { chain with producer, pending := design.produces chain.producer producer }
    | _ :: _ => none
  | .send =>
    match chain.pending with
    | [] => none
    | item :: pending =>
      if chain.channel.length < design.channelSize then
        some { chain with pending, channel := chain.channel ++ [item] }
      else none
  | .take =>
    match chain.hand, chain.channel with
    | none, item :: channel =>
      some
        { chain with
          channel
          hand := if design.forwards item then some item else none
          taken := chain.taken ++ [item] }
    | _, _ => none
  | .forward =>
    match chain.hand with
    | none => none
    | some item =>
      if chain.store.length < design.storeSize then
        some { chain with hand := none, store := chain.store ++ [item] }
      else none

/-- What a turn can do. -/
inductive Moves (design : Design State Input Item) (chain : Chain State Item) :
    Turn Input → Chain State Item → Prop
  | produced {input : Input} {producer : State} (sent : chain.pending = [])
      (stepped : design.step chain.producer input = some producer) :
      Moves design chain (.produce input)
        { chain with producer, pending := design.produces chain.producer producer }
  | sent {item : Item} {pending : List Item} (first : chain.pending = item :: pending)
      (room : chain.channel.length < design.channelSize) :
      Moves design chain .send { chain with pending, channel := chain.channel ++ [item] }
  | kept {item : Item} {channel : List Item} (empty : chain.hand = none)
      (first : chain.channel = item :: channel) (forwards : design.forwards item = true) :
      Moves design chain .take
        { chain with channel, hand := some item, taken := chain.taken ++ [item] }
  | handled {item : Item} {channel : List Item} (empty : chain.hand = none)
      (first : chain.channel = item :: channel) (forwards : design.forwards item = false) :
      Moves design chain .take
        { chain with channel, hand := none, taken := chain.taken ++ [item] }
  | forwarded {item : Item} (held : chain.hand = some item)
      (space : chain.store.length < design.storeSize) :
      Moves design chain .forward { chain with hand := none, store := chain.store ++ [item] }

variable {design}

theorem turn_moves {chain next : Chain State Item} {turn : Turn Input}
    (move : design.turn chain turn = some next) : design.Moves chain turn next := by
  cases turn with
  | produce input =>
    unfold Design.turn at move
    dsimp only at move
    split at move
    · rename_i sent
      obtain ⟨producer, stepped, rfl⟩ := Option.map_eq_some_iff.mp move
      exact .produced sent stepped
    · cases move
  | send =>
    unfold Design.turn at move
    dsimp only at move
    split at move
    · cases move
    · rename_i item pending first
      split_ifs at move with room
      obtain rfl := Option.some.inj move
      exact .sent first room
  | take =>
    unfold Design.turn at move
    dsimp only at move
    split at move
    · rename_i item channel empty first
      split_ifs at move with forwards
      · obtain rfl := Option.some.inj move
        exact .kept empty first forwards
      · obtain rfl := Option.some.inj move
        exact .handled empty first (Bool.eq_false_iff.mpr forwards)
    · cases move
  | forward =>
    unfold Design.turn at move
    dsimp only at move
    split at move
    · cases move
    · rename_i item held
      split_ifs at move with space
      obtain rfl := Option.some.inj move
      exact .forwarded held space

/-- The producer waits to send into a full channel, and the relay to forward into a full store. -/
structure Wedged (chain : Chain State Item) : Prop where
  pending : chain.pending ≠ []
  channel : design.channelSize ≤ chain.channel.length
  hand : chain.hand ≠ none
  store : design.storeSize ≤ chain.store.length

/-- What the producer produces for some inputs, as far as it takes them. -/
def emitted (state : State) : List Input → List Item
  | [] => []
  | input :: rest =>
    match design.step state input with
    | none => []
    | some next => design.produces state next ++ emitted next rest

/-- More items are to be forwarded than the store holds, and more items follow than the channel
holds. -/
def Overflows (items : List Item) : Prop :=
  ∃ before after, items = before ++ after ∧ design.storeSize < before.countP design.forwards ∧
    design.channelSize < after.length

theorem Overflows.append {items : List Item} (overflows : design.Overflows items)
    (more : List Item) : design.Overflows (items ++ more) := by
  obtain ⟨before, after, rfl, stored, sent⟩ := overflows
  refine ⟨before, after ++ more, List.append_assoc before after more, stored, ?_⟩
  rw [List.length_append]
  omega

/-- Nothing moves in a wedged chain. -/
theorem Wedged.turn_eq_none {chain : Chain State Item} (wedged : design.Wedged chain)
    (turn : Turn Input) : design.turn chain turn = none := by
  obtain ⟨item, rest, pending⟩ := List.exists_cons_of_ne_nil wedged.pending
  obtain ⟨held, hand⟩ := Option.ne_none_iff_exists'.mp wedged.hand
  cases turn with
  | produce input => simp only [Design.turn, pending]
  | send => simp only [Design.turn, pending, if_neg (Nat.not_lt.mpr wedged.channel)]
  | take => simp only [Design.turn, hand]
  | forward => simp only [Design.turn, hand, if_neg (Nat.not_lt.mpr wedged.store)]

/-! ### What every schedule keeps -/

/-- The relay has forwarded what it has taken, but for the item in hand, which it took last; the
channel and the store keep to their sizes. -/
structure Sound (design : Design State Input Item) (chain : Chain State Item) : Prop where
  room : chain.channel.length ≤ design.channelSize
  capacity : chain.store.length ≤ design.storeSize
  forwarded : ∃ before, chain.taken = before ++ chain.hand.toList ∧
    before.countP design.forwards = chain.store.length ∧
    ∀ item, chain.hand = some item → design.forwards item = true

theorem Sound.start (design : Design State Input Item) (producer : State) :
    design.Sound (.start producer) where
  room := Nat.zero_le _
  capacity := Nat.zero_le _
  forwarded := ⟨[], rfl, rfl, nofun⟩

theorem Sound.turn {chain next : Chain State Item} {turn : Turn Input} (sound : design.Sound chain)
    (move : design.turn chain turn = some next) : design.Sound next := by
  obtain ⟨room, capacity, before, taken, stored, forwards⟩ := sound
  cases turn_moves move with
  | produced sent stepped => exact ⟨room, capacity, before, taken, stored, forwards⟩
  | sent first space =>
    refine ⟨?_, capacity, before, taken, stored, forwards⟩
    rw [List.length_append, List.length_singleton]
    exact space
  | @kept item channel empty first forwarded =>
    rw [empty, Option.toList_none, List.append_nil] at taken
    rw [first, List.length_cons] at room
    refine ⟨Nat.le_of_succ_le room, capacity, before, ?_, stored, ?_⟩
    · rw [taken, Option.toList_some]
    · intro held same
      obtain rfl := Option.some.inj same
      exact forwarded
  | @handled item channel empty first forwarded =>
    rw [empty, Option.toList_none, List.append_nil] at taken
    rw [first, List.length_cons] at room
    refine ⟨Nat.le_of_succ_le room, capacity, before ++ [item], ?_, ?_, nofun⟩
    · rw [taken, Option.toList_none, List.append_nil]
    · rw [List.countP_append, List.countP_singleton, forwarded, stored]
      rfl
  | @forwarded item held space =>
    refine ⟨room, ?_, before ++ [item], ?_, ?_, nofun⟩
    · rw [List.length_append, List.length_singleton]
      exact space
    · rw [taken, held, Option.toList_some, Option.toList_none, List.append_nil]
    · rw [List.countP_append, List.countP_singleton, forwards item held, stored,
        List.length_append, List.length_singleton]
      rfl

theorem Sound.run {first last : Chain State Item} {turns : List (Turn Input)}
    (run : Run design.turn first turns last) (sound : design.Sound first) : design.Sound last :=
  run.preserves (fun _ _ _ sound move => sound.turn move) sound

/-- Nothing is lost or duplicated on the way, whatever the schedule: what a run has produced and
what the producer goes on to produce is what the first chain had and its producer produces. -/
theorem items_run {first last : Chain State Item} {turns : List (Turn Input)}
    (run : Run design.turn first turns last) (rest : List Input) :
    last.items ++ design.emitted last.producer rest =
      first.items ++ design.emitted first.producer (fed turns ++ rest) := by
  induction run with
  | nil chain => rfl
  | @cons chain next last turn turns move _ inductionHypothesis =>
    rw [inductionHypothesis]
    cases turn_moves move with
    | @produced input producer sent stepped =>
      show _ ++ _ = _ ++ design.emitted chain.producer (input :: (fed turns ++ rest))
      simp only [emitted, stepped, Chain.items, sent, List.append_nil, List.append_assoc]
    | sent first room =>
      show _ ++ _ = _ ++ design.emitted chain.producer (fed turns ++ rest)
      simp only [Chain.items, first, List.append_assoc, List.singleton_append]
    | kept empty first | handled empty first =>
      show _ ++ _ = _ ++ design.emitted chain.producer (fed turns ++ rest)
      simp only [Chain.items, first, List.append_assoc, List.cons_append, List.nil_append]
    | forwarded held space => rfl

/-- A wedged chain overflows. -/
theorem Sound.overflows {chain : Chain State Item} (sound : design.Sound chain)
    (wedged : design.Wedged chain) : design.Overflows chain.items := by
  obtain ⟨before, taken, stored, forwards⟩ := sound.forwarded
  obtain ⟨item, hand⟩ := Option.ne_none_iff_exists'.mp wedged.hand
  refine ⟨chain.taken, chain.channel ++ chain.pending, List.append_assoc _ _ _, ?_, ?_⟩
  · rw [taken, hand, Option.toList_some, List.countP_append, List.countP_singleton,
      forwards item hand, stored, if_pos rfl]
    exact Nat.lt_succ_of_le wedged.store
  · have waiting := List.length_pos_of_ne_nil wedged.pending
    have full := wedged.channel
    rw [List.length_append]
    omega

/-! ### A schedule that goes as far as it can -/

/-- What is left to do, each item counted by the turns that it has before it. -/
def weight (design : Design State Input Item) (chain : Chain State Item) (inputs : List Input) :
    Nat :=
  inputs.length + 4 * (design.emitted chain.producer inputs).length + 3 * chain.pending.length +
    2 * chain.channel.length + chain.hand.toList.length

/-- Neither task can move by itself. -/
structure Blocked (design : Design State Input Item) (chain : Chain State Item) : Prop where
  send : design.turn chain .send = none
  take : design.turn chain .take = none
  forward : design.turn chain .forward = none

/-- A turn of the tasks themselves leaves less to do. -/
theorem weight_lt {chain next : Chain State Item} {turn : Turn Input} (inputs : List Input)
    (move : design.turn chain turn = some next) (own : fed [turn] = []) :
    design.weight next inputs < design.weight chain inputs := by
  unfold weight
  cases turn_moves move with
  | produced => cases own
  | sent first room =>
    simp only [first, List.length_append, List.length_cons, List.length_nil]
    omega
  | kept empty first forwards | handled empty first forwards =>
    simp only [empty, first, List.length_cons, Option.toList_none, Option.toList_some,
      List.length_nil]
    omega
  | forwarded held space =>
    simp only [held, Option.toList_none, Option.toList_some, List.length_cons, List.length_nil]
    omega

/-- From every chain some schedule goes on until neither task can move, and the producer waits to
send or produces nothing more for the inputs. -/
theorem exists_blocked (design : Design State Input Item) (chain : Chain State Item)
    (inputs : List Input) :
    ∃ turns last rest, Run design.turn chain turns last ∧ inputs = fed turns ++ rest ∧
      design.Blocked last ∧ (last.pending ≠ [] ∨ design.emitted last.producer rest = []) := by
  induction left : design.weight chain inputs using Nat.strongRecOn generalizing chain
    inputs with
  | _ _ inductionHypothesis =>
    subst left
    have own {turn : Turn Input} {next : Chain State Item}
        (move : design.turn chain turn = some next) (own : fed [turn] = []) :
        ∃ turns last rest, Run design.turn chain turns last ∧ inputs = fed turns ++ rest ∧
          design.Blocked last ∧ (last.pending ≠ [] ∨ design.emitted last.producer rest = []) := by
      obtain ⟨turns, last, rest, run, split, final⟩ :=
        inductionHypothesis _ (weight_lt inputs move own) next inputs rfl
      refine ⟨turn :: turns, last, rest, .cons move run, ?_, final⟩
      have begins : fed (turn :: turns) = fed [turn] ++ fed turns := by
        rw [fed, fed, fed, ← List.filterMap_append, List.singleton_append]
      rw [begins, own]
      exact split
    cases send : design.turn chain .send with
    | some next => exact own send rfl
    | none =>
    cases take : design.turn chain .take with
    | some next => exact own take rfl
    | none =>
    cases forward : design.turn chain .forward with
    | some next => exact own forward rfl
    | none =>
    have blocked : design.Blocked chain := ⟨send, take, forward⟩
    by_cases waiting : chain.pending = []
    · cases inputs with
      | nil => exact ⟨[], chain, [], .nil chain, rfl, blocked, Or.inr rfl⟩
      | cons input inputs =>
        cases stepped : design.step chain.producer input with
        | none =>
          refine ⟨[], chain, input :: inputs, .nil chain, rfl, blocked, Or.inr ?_⟩
          simp only [emitted, stepped]
        | some producer =>
          let next : Chain State Item :=
            { chain with producer, pending := design.produces chain.producer producer }
          have move : design.turn chain (.produce input) = some next := by
            simp only [Design.turn, waiting, stepped, Option.map_some, next]
          have less : design.weight next inputs < design.weight chain (input :: inputs) := by
            simp only [weight, emitted, stepped, waiting, next, List.length_cons,
              List.length_append, List.length_nil]
            omega
          obtain ⟨turns, last, rest, run, split, final⟩ :=
            inductionHypothesis _ less next inputs rfl
          refine ⟨.produce input :: turns, last, rest, .cons move run, ?_, final⟩
          show input :: inputs = input :: (fed turns ++ rest)
          rw [split]
    · exact ⟨[], chain, inputs, .nil chain, rfl, blocked, Or.inl waiting⟩

/-- Tasks that cannot move while the producer waits to send are wedged. -/
theorem Blocked.wedged {chain : Chain State Item} (blocked : design.Blocked chain)
    (sized : 0 < design.channelSize) (waiting : chain.pending ≠ []) : design.Wedged chain := by
  obtain ⟨item, pending, first⟩ := List.exists_cons_of_ne_nil waiting
  have full : design.channelSize ≤ chain.channel.length := by
    by_contra room
    have send := blocked.send
    simp only [Design.turn, first, if_pos (Nat.lt_of_not_le room)] at send
    cases send
  obtain ⟨next, channel, queued⟩ :=
    List.exists_cons_of_ne_nil (List.ne_nil_of_length_pos (Nat.lt_of_lt_of_le sized full))
  have hand : chain.hand ≠ none := by
    intro empty
    have take := blocked.take
    simp only [Design.turn, empty, queued] at take
    cases take
  refine ⟨waiting, full, hand, ?_⟩
  by_contra space
  obtain ⟨held, same⟩ := Option.ne_none_iff_exists'.mp hand
  have forward := blocked.forward
  simp only [Design.turn, same, if_pos (Nat.lt_of_not_le space)] at forward
  cases forward

/-- Tasks that cannot move and have nothing to send do not overflow. -/
theorem Blocked.not_overflows {chain : Chain State Item} (blocked : design.Blocked chain)
    (sound : design.Sound chain) (sent : chain.pending = []) :
    ¬ design.Overflows chain.items := by
  rintro ⟨before, after, split, stored, long⟩
  rw [Chain.items, sent, List.append_nil] at split
  obtain ⟨handled, taken, count, _⟩ := sound.forwarded
  suffices early : before <+: handled by
    have fewer : before.countP design.forwards ≤ handled.countP design.forwards :=
      early.sublist.countP_le
    have capacity := sound.capacity
    omega
  have begins : before <+: chain.taken ++ chain.channel := split ▸ List.prefix_append _ _
  have lengths := congrArg List.length split
  rw [List.length_append, List.length_append] at lengths
  have room := sound.room
  cases hand : chain.hand with
  | none =>
    -- a relay with an empty hand has taken everything
    have drained : chain.channel = [] := by
      by_contra waiting
      obtain ⟨item, channel, first⟩ := List.exists_cons_of_ne_nil waiting
      have take := blocked.take
      simp only [Design.turn, hand, first] at take
      cases take
    rw [hand, Option.toList_none, List.append_nil] at taken
    rw [drained, List.append_nil, taken] at begins
    exact begins
  | some item =>
    -- the item in hand is the last that was taken, and what follows it fits the channel
    rw [hand, Option.toList_some] at taken
    rw [taken, List.append_assoc] at begins
    refine List.prefix_of_prefix_length_le begins (List.prefix_append _ _) ?_
    rw [taken, List.length_append, List.length_singleton] at lengths
    omega

/-! ### Exactly when a chain can wedge -/

/-- The producer can get to send everything, without a step of its own. -/
def Returns (design : Design State Input Item) (chain : Chain State Item) : Prop :=
  ∃ turns last, fed turns = [] ∧ Run design.turn chain turns last ∧ last.pending = []

/-- Where nothing moves, the producer does not get to send. -/
theorem Returns.not_wedged {chain : Chain State Item} (returns : design.Returns chain) :
    ¬ design.Wedged chain := by
  intro wedged
  obtain ⟨turns, last, _, run, sent⟩ := returns
  cases run with
  | nil => exact wedged.pending sent
  | cons move =>
    rw [wedged.turn_eq_none] at move
    cases move

/-- Under every schedule of the inputs the producer can always get to send everything, exactly
where what it produces for the inputs does not overflow. -/
theorem always_returns_iff (design : Design State Input Item) (sized : 0 < design.channelSize)
    (first : State) (inputs : List Input) :
    (∀ turns last, Run design.turn (.start first) turns last → fed turns <+: inputs →
      design.Returns last) ↔ ¬ design.Overflows (design.emitted first inputs) := by
  constructor
  · intro safe overflows
    obtain ⟨turns, last, rest, run, split, blocked, ending⟩ :=
      design.exists_blocked (.start first) inputs
    have returns := safe turns last run ⟨rest, split.symm⟩
    have sound := Sound.run run (.start design first)
    have sent : last.pending = [] := by
      by_contra waiting
      exact returns.not_wedged (blocked.wedged sized waiting)
    have items := items_run run rest
    rw [← split, ending.resolve_left (absurd sent), List.append_nil] at items
    refine blocked.not_overflows sound sent ?_
    rw [items]
    exact overflows
  · intro clear turns last run begun
    obtain ⟨turns', last', none, run', split, blocked, _⟩ := design.exists_blocked last []
    obtain ⟨still, _⟩ := List.append_eq_nil_iff.mp split.symm
    refine ⟨turns', last', still, run', ?_⟩
    by_contra waiting
    -- the tasks would be wedged, and what the producer has produced would overflow
    have wedged := blocked.wedged sized waiting
    obtain ⟨rest, whole⟩ := begun
    have items := items_run (run.append run') rest
    have fed_append : fed (turns ++ turns') = fed turns ++ fed turns' := List.filterMap_append
    rw [fed_append, still, List.append_nil, whole] at items
    have overflows := (Sound.run (run.append run') (.start design first)).overflows wedged
    refine clear ?_
    show design.Overflows ([] ++ _)
    exact items ▸ overflows.append _

end Design

end Relay

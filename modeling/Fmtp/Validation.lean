/-
This file says what validation accepts and what it completes. A configuration is valid when its
entries are, and when it has what its server entries need; the only thing validation adds is a
missing `server_ti`, and with it a server never fails for the lack of one.
-/

import Fmtp.Reaction

namespace Fmtp

/-! ### Valid configurations -/

/-- The configuration has the entry, under some id. -/
def Config.Has (config : Config) (entry : ConnectionConfig) : Prop :=
  ∃ id, config.connections.lookup id = some entry

structure Config.Valid (config : Config) : Prop where
  nonempty : ∃ entry, config.Has entry
  bound : ∀ entry, config.Has entry → entry.role = .server → config.bindAddress ≠ none
  timers : ∀ entry, config.Has entry → entry.ts ≤ entry.tr
  addressed : ∀ entry, config.Has entry → entry.role = .client → entry.remoteAddresses ≠ []

/-- The longest `ti` of the server entries, if there are any. -/
structure Config.Longest (config : Config) (longest : Option Duration) : Prop where
  absent : longest = none ↔ ∀ entry, config.Has entry → entry.role ≠ .server
  reached : ∀ ti, longest = some ti →
    ∃ entry, config.Has entry ∧ entry.role = .server ∧ entry.ti = ti
  bounds : ∀ ti, longest = some ti →
    ∀ entry, config.Has entry → entry.role = .server → entry.ti ≤ ti

namespace Config

variable {config : Config}

theorem has_iff {entry : ConnectionConfig} :
    config.Has entry ↔ ∃ pair ∈ config.connections.entries, pair.2 = entry := by
  constructor
  · rintro ⟨id, found⟩
    exact ⟨⟨id, entry⟩, mem_entries_iff.mpr found, rfl⟩
  · rintro ⟨⟨id, entry⟩, member, rfl⟩
    exact ⟨id, mem_entries_iff.mp member⟩

/-- The `ti` of each server entry. -/
def serverTimes (config : Config) : List Duration :=
  (config.connections.entries.filter fun pair => pair.2.role = .server).map fun pair => pair.2.ti

theorem mem_serverTimes {ti : Duration} :
    ti ∈ config.serverTimes ↔ ∃ entry, config.Has entry ∧ entry.role = .server ∧ entry.ti = ti := by
  constructor
  · intro member
    obtain ⟨pair, filtered, rfl⟩ := List.mem_map.mp member
    obtain ⟨known, server⟩ := List.mem_filter.mp filtered
    exact ⟨pair.2, has_iff.mpr ⟨pair, known, rfl⟩, of_decide_eq_true server, rfl⟩
  · rintro ⟨entry, known, server, rfl⟩
    obtain ⟨pair, member, rfl⟩ := has_iff.mp known
    exact List.mem_map_of_mem (List.mem_filter.mpr ⟨member, decide_eq_true server⟩)

theorem longest_serverTimes (config : Config) : config.Longest config.serverTimes.max? := by
  refine ⟨?_, ?_, ?_⟩
  · rw [List.max?_eq_none_iff, List.eq_nil_iff_forall_not_mem]
    constructor
    · intro none entry known server
      exact none entry.ti (mem_serverTimes.mpr ⟨entry, known, server, rfl⟩)
    · intro none ti member
      obtain ⟨entry, known, server, _⟩ := mem_serverTimes.mp member
      exact none entry known server
  · intro ti longest
    exact mem_serverTimes.mp (List.max?_eq_some_iff.mp longest).1
  · intro ti longest entry known server
    exact (List.max?_eq_some_iff.mp longest).2 entry.ti
      (mem_serverTimes.mpr ⟨entry, known, server, rfl⟩)

/-- The configuration with the `server_ti` that its server entries need. -/
def completed (config : Config) : Config :=
  { config with serverTi := config.serverTi.or config.serverTimes.max? }

theorem completed_completed (config : Config) : config.completed.completed = config.completed := by
  have again : (config.serverTi.or config.serverTimes.max?).or config.serverTimes.max? =
      config.serverTi.or config.serverTimes.max? := by
    rw [Option.or_assoc, Option.or_self]
  exact congrArg (fun serverTi => { config with serverTi }) again

/-- The completed configuration has the same entries and the same address. -/
theorem valid_completed : config.completed.Valid ↔ config.Valid :=
  ⟨fun valid => ⟨valid.nonempty, valid.bound, valid.timers, valid.addressed⟩,
    fun valid => ⟨valid.nonempty, valid.bound, valid.timers, valid.addressed⟩⟩

end Config

/-! ### Validation -/

theorem ConnectionConfig.validate_eq_ok {entry : ConnectionConfig} :
    entry.validate = .ok () ↔
      entry.ts ≤ entry.tr ∧ (entry.role = .client → entry.remoteAddresses ≠ []) := by
  unfold validate
  split_ifs with short unaddressed
  · exact iff_of_false nofun fun valid => absurd valid.1 (Nat.not_le.mpr short)
  · exact iff_of_false nofun fun valid => valid.2 unaddressed.1 unaddressed.2
  · refine iff_of_true rfl ⟨Nat.le_of_not_lt short, fun client empty => ?_⟩
    exact unaddressed ⟨client, empty⟩

/-- An entry that is refused is refused with a message. -/
theorem ConnectionConfig.validate_cases (entry : ConnectionConfig) :
    entry.validate = .ok () ∨ ∃ text, entry.validate = .error (.error text) := by
  unfold validate
  split_ifs
  · exact Or.inr ⟨_, rfl⟩
  · exact Or.inr ⟨_, rfl⟩
  · exact Or.inl rfl

namespace Config

variable {config config' : Config}

theorem connErrs_eq_nil :
    config.connErrs = [] ↔ ∀ entry, config.Has entry → entry.validate = .ok () := by
  rw [connErrs, List.filterMap_eq_nil_iff]
  constructor
  · intro silent entry known
    obtain ⟨pair, member, rfl⟩ := has_iff.mp known
    rcases pair.2.validate_cases with accepted | ⟨text, refused⟩
    · exact accepted
    · have named := silent pair member
      rw [refused] at named
      cases named
  · intro accepted pair member
    rw [accepted pair.2 (has_iff.mpr ⟨pair, member, rfl⟩)]

/-- Validation accepts the valid configurations and returns them completed. -/
theorem validate_eq_ok :
    config.validate = .ok config' ↔ config.Valid ∧ config' = config.completed := by
  unfold validate
  dsimp only
  split
  · rename_i ti longest unbound
    constructor
    · intro accepted
      cases accepted
    · rintro ⟨valid, _⟩
      obtain ⟨entry, known, server, _⟩ := config.longest_serverTimes.reached ti longest
      exact absurd unbound (valid.bound entry known server)
  · rename_i bound
    split_ifs with empty accepted
    · constructor
      · intro accepted
        cases accepted
      · rintro ⟨valid, _⟩
        obtain ⟨entry, known⟩ := valid.nonempty
        obtain ⟨pair, member, _⟩ := has_iff.mp known
        rw [empty] at member
        exact absurd member List.not_mem_nil
    · have each := (@connErrs_eq_nil config).mp accepted
      have valid : config.Valid := by
        refine ⟨?_, ?_, ?_, ?_⟩
        · obtain ⟨pair, rest, listed⟩ := List.exists_cons_of_ne_nil empty
          refine ⟨pair.2, has_iff.mpr ⟨pair, ?_, rfl⟩⟩
          rw [show config.connections.entries = pair :: rest from listed]
          exact List.mem_cons_self
        · intro entry known server unbound
          obtain ⟨ti, longest⟩ : ∃ ti, config.serverTimes.max? = some ti := by
            by_contra absent
            have none := Option.eq_none_iff_forall_ne_some.mpr fun ti same => absent ⟨ti, same⟩
            exact config.longest_serverTimes.absent.mp none entry known server
          exact bound ti longest unbound
        · exact fun entry known => (ConnectionConfig.validate_eq_ok.mp (each entry known)).1
        · exact fun entry known => (ConnectionConfig.validate_eq_ok.mp (each entry known)).2
      constructor
      · intro returned
        exact ⟨valid, (Except.ok.inj returned).symm⟩
      · rintro ⟨_, rfl⟩
        rfl
    · constructor
      · intro returned
        cases returned
      · rintro ⟨valid, _⟩
        refine absurd ((@connErrs_eq_nil config).mpr fun entry known => ?_) accepted
        exact ConnectionConfig.validate_eq_ok.mpr
          ⟨valid.timers entry known, valid.addressed entry known⟩

end Config

/-- A machine in Idle with a `server_ti` accepts a TCP connection. -/
theorem Connection.serves {connection : Connection} {serverTi : Duration}
    (idle : connection.state = .idle)
    (timed : connection.storage.config.serverTi = some serverTi) (now : Instant)
    (context : ConnectionContext) :
    ∃ next, connection.handleWithContext (.rSetup now) context = .ok (next, context) ∧
      next.state = .idPending ⟨now + serverTi⟩ := by
  obtain ⟨state, storage⟩ := connection
  obtain rfl : state = .idle := idle
  refine ⟨⟨.idPending ⟨now + serverTi⟩, { storage with server := true }⟩, ?_, rfl⟩
  rw [Connection.handleWithContext_of_reaction context (.served timed),
    ConnectionContext.extend_nil]
  rfl

/-- Validation accepts exactly the valid configurations. What it returns differs from its input in
`server_ti` only, which stays where it was set and else is the longest `ti` of the server
entries; it is returned again when it is validated again; and where it has a server entry, every
machine in Idle with this configuration answers a TCP connection by waiting for an
identification, for `server_ti`. -/
theorem validation_exact (config : Config) :
    ((∃ config', config.validate = .ok config') ↔ config.Valid) ∧
      ∀ config', config.validate = .ok config' →
        (∃ longest, config.Longest longest ∧
          config' = { config with serverTi := config.serverTi.or longest }) ∧
        config'.validate = .ok config' ∧
        ∀ entry, config'.Has entry → entry.role = .server →
          ∃ serverTi, config'.serverTi = some serverTi ∧
            ∀ (connection : Connection) (now : Instant) (context : ConnectionContext),
              connection.storage.config = config' → connection.state = .idle →
              ∃ next, connection.handleWithContext (.rSetup now) context = .ok (next, context) ∧
                next.state = .idPending ⟨now + serverTi⟩ := by
  refine ⟨⟨?_, fun valid => ⟨_, Config.validate_eq_ok.mpr ⟨valid, rfl⟩⟩⟩, ?_⟩
  · rintro ⟨config', accepted⟩
    exact (Config.validate_eq_ok.mp accepted).1
  · intro config' accepted
    obtain ⟨valid, rfl⟩ := Config.validate_eq_ok.mp accepted
    refine ⟨⟨_, config.longest_serverTimes, rfl⟩, ?_, ?_⟩
    · exact Config.validate_eq_ok.mpr
        ⟨Config.valid_completed.mpr valid, config.completed_completed.symm⟩
    · intro entry known server
      obtain ⟨serverTi, timed⟩ : ∃ serverTi, config.completed.serverTi = some serverTi := by
        by_contra absent
        have none := Option.eq_none_iff_forall_ne_some.mpr fun ti same => absent ⟨ti, same⟩
        have unlisted : config.serverTimes.max? = Option.none := (Option.or_eq_none_iff.mp none).2
        exact config.longest_serverTimes.absent.mp unlisted entry known server
      refine ⟨serverTi, timed, fun connection now context same idle => ?_⟩
      rw [← same] at timed
      exact connection.serves idle timed now context

end Fmtp

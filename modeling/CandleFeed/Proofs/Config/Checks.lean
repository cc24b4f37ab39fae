import CandleFeed.Config.Basic

/-!
# What the checks ask of settings

The checks of settings stop at the first fault.  **`FeedConfig.Workable`** says all that they ask
for apart from the symbols, and settings pass them exactly if they are workable and every symbol
names an instrument (**`FeedConfig.validate_eq_ok_iff`**).  Proofs about settings that pass their
checks take what they need of the two by name.
-/

namespace CandleFeed.FeedConfig

/-- What the checks ask of settings, apart from the symbols. -/
structure Workable (c : FeedConfig) : Prop where
  url_ne : c.provider.url ≠ ""
  granularities_ne : c.aggregation.granularities ≠ []
  timeout_pos : 0 < c.connection.heartbeatTimeoutSecs
  window_pos : 0 < c.connection.stabilityWindowSecs
  base_pos : 0 < c.connection.backoffBaseSecs
  base_le : c.connection.backoffBaseSecs ≤ c.connection.backoffMaxSecs
  buffer_pos : 0 < c.connection.payloadBuffer
  workers_pos : 0 < c.workers.blockingPoolSize
  /-- A cache that lies elsewhere has an address. -/
  redis : c.cache.backend = .redis → c.cache.redisUrl ≠ none
  /-- So has a store that does. -/
  postgres : c.sink.backend = .postgres → c.sink.databaseUrl ≠ none

/-- Of a choice of faults there is none exactly if the first is none and the others are none. -/
theorem ite_eq_none_iff {p : Prop} [Decidable p] {fault : ConfigFault}
    {rest : Option ConfigFault} :
    (if p then some fault else rest) = none ↔ ¬p ∧ rest = none := by
  by_cases hp : p
  · simp [hp]
  · simp [hp]

/-- Workable settings are those without a fault apart from the symbols. -/
theorem fault?_eq_none_iff {c : FeedConfig} : c.fault? = none ↔ c.Workable := by
  unfold fault?
  simp only [ite_eq_none_iff, String.isEmpty_iff, List.isEmpty_iff, Bool.or_eq_true,
    Bool.and_eq_true, beq_iff_eq, decide_eq_true_eq, Option.isNone_iff_eq_none, not_or, not_and,
    Nat.not_lt, ← Nat.pos_iff_ne_zero, and_true]
  constructor
  · rintro ⟨hurl, hgranularities, ⟨htimeout, hwindow⟩, ⟨hbase, hrange⟩, hbuffer, hworkers, hredis,
      hpostgres⟩
    exact ⟨hurl, hgranularities, htimeout, hwindow, hbase, hrange, hbuffer, hworkers, hredis,
      hpostgres⟩
  · intro h
    exact ⟨h.url_ne, h.granularities_ne, ⟨h.timeout_pos, h.window_pos⟩, ⟨h.base_pos, h.base_le⟩,
      h.buffer_pos, h.workers_pos, h.redis, h.postgres⟩

/-- **Settings pass their checks** exactly if they are workable and every symbol names an
instrument. -/
theorem validate_eq_ok_iff {c : FeedConfig} :
    c.validate = .ok () ↔ c.Workable ∧ ∃ instruments, c.instruments = .ok instruments := by
  rw [← fault?_eq_none_iff]
  unfold validate
  cases c.fault? with
  | some fault => simp
  | none =>
    cases c.instruments with
    | error fault => simp [Except.map]
    | ok instruments => simp [Except.map]

end CandleFeed.FeedConfig

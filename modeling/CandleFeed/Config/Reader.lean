import CandleFeed.Config.Basic
import CandleFeed.Config.Format
import CandleFeed.Json.Printer

/-!
# Settings, read and written

**`FeedConfig.read`** reads settings in any notation; what is missing is standard, and names that
are no settings are passed over.  **`FeedConfig.ofJson?`** and **`FeedConfig.load`** read the two
notations in use, **`FeedConfig.toJson`** writes all settings.
-/

namespace CandleFeed

namespace CacheBackend

/-- The name of a kind of cache. -/
def name : CacheBackend → String
  | memory => "memory"
  | redis => "redis"

/-- The kind of cache with a name. -/
def ofName? (name : String) : Option CacheBackend := [memory, redis].find? (·.name == name)

end CacheBackend

namespace SinkBackend

/-- The name of a kind of store. -/
def name : SinkBackend → String
  | memory => "memory"
  | postgres => "postgres"

/-- The kind of store with a name. -/
def ofName? (name : String) : Option SinkBackend := [memory, postgres].find? (·.name == name)

end SinkBackend

/-- A field of a record that may be missing. -/
def Format.field {ν α : Type} (default : α) (read : ν → Option α) (v : Option ν) : Option α :=
  match v with
  | none => some default
  | some v => read v

namespace ProviderConfig

/-- Reads the settings of the provider. -/
def read {ν : Type} (f : Format ν) (v : ν) : Option ProviderConfig := do
  let [url, origin, token, quoteFields] ←
    f.fields ["url", "origin", "auth_token", "quote_fields"] v | none
  return {
    url := ← Format.field standard.url f.text url
    origin := ← Format.field standard.origin f.text origin
    authToken := ← Format.field standard.authToken f.optionalText token
    quoteFields := ← Format.field standard.quoteFields (f.list f.text) quoteFields }

/-- The settings of the provider as JSON. -/
def toJson (c : ProviderConfig) : Json :=
  .obj [("url", .str c.url), ("origin", .str c.origin),
    ("auth_token", .ofOption .str c.authToken), ("quote_fields", .arr (c.quoteFields.map .str))]

end ProviderConfig

namespace ConnectionConfig

/-- Reads the settings of the connection. -/
def read {ν : Type} (f : Format ν) (v : ν) : Option ConnectionConfig := do
  let [heartbeat, stability, base, longest, buffer] ←
    f.fields ["heartbeat_timeout_secs", "stability_window_secs", "backoff_base_secs",
      "backoff_max_secs", "payload_buffer"] v | none
  return {
    heartbeatTimeoutSecs := ← Format.field standard.heartbeatTimeoutSecs f.number heartbeat
    stabilityWindowSecs := ← Format.field standard.stabilityWindowSecs f.number stability
    backoffBaseSecs := ← Format.field standard.backoffBaseSecs f.number base
    backoffMaxSecs := ← Format.field standard.backoffMaxSecs f.number longest
    payloadBuffer := ← Format.field standard.payloadBuffer f.number buffer }

/-- The settings of the connection as JSON. -/
def toJson (c : ConnectionConfig) : Json :=
  .obj [("heartbeat_timeout_secs", .ofInt c.heartbeatTimeoutSecs),
    ("stability_window_secs", .ofInt c.stabilityWindowSecs),
    ("backoff_base_secs", .ofInt c.backoffBaseSecs), ("backoff_max_secs", .ofInt c.backoffMaxSecs),
    ("payload_buffer", .ofInt c.payloadBuffer)]

end ConnectionConfig

namespace AggregationConfig

/-- Reads the settings of the bars. -/
def read {ν : Type} (f : Format ν) (v : ν) : Option AggregationConfig := do
  let [granularities, cached] ← f.fields ["granularities", "cache_current_bars"] v | none
  let granularity (v : ν) : Option Granularity := (f.name v).bind Granularity.ofName?
  return {
    granularities := ← Format.field standard.granularities (f.list granularity) granularities
    cacheCurrentBars := ← Format.field standard.cacheCurrentBars f.truth cached }

/-- The settings of the bars as JSON. -/
def toJson (c : AggregationConfig) : Json :=
  .obj [("granularities", .arr (c.granularities.map fun g => .str g.name)),
    ("cache_current_bars", .bool c.cacheCurrentBars)]

end AggregationConfig

namespace CacheConfig

/-- Reads the settings of the cache. -/
def read {ν : Type} (f : Format ν) (v : ν) : Option CacheConfig := do
  let [backend, url, quoteTtl, barTtl] ←
    f.fields ["backend", "redis_url", "quote_ttl_secs", "bar_ttl_secs"] v | none
  return {
    backend := ← Format.field standard.backend (fun v => (f.name v).bind CacheBackend.ofName?)
      backend
    redisUrl := ← Format.field standard.redisUrl f.optionalText url
    quoteTtlSecs := ← Format.field standard.quoteTtlSecs f.number quoteTtl
    barTtlSecs := ← Format.field standard.barTtlSecs f.number barTtl }

/-- The settings of the cache as JSON. -/
def toJson (c : CacheConfig) : Json :=
  .obj [("backend", .str c.backend.name), ("redis_url", .ofOption .str c.redisUrl),
    ("quote_ttl_secs", .ofInt c.quoteTtlSecs), ("bar_ttl_secs", .ofInt c.barTtlSecs)]

end CacheConfig

namespace SinkConfig

/-- Reads the settings of the store. -/
def read {ν : Type} (f : Format ν) (v : ν) : Option SinkConfig := do
  let [backend, url] ← f.fields ["backend", "database_url"] v | none
  return {
    backend := ← Format.field standard.backend (fun v => (f.name v).bind SinkBackend.ofName?)
      backend
    databaseUrl := ← Format.field standard.databaseUrl f.optionalText url }

/-- The settings of the store as JSON. -/
def toJson (c : SinkConfig) : Json :=
  .obj [("backend", .str c.backend.name), ("database_url", .ofOption .str c.databaseUrl)]

end SinkConfig

namespace WorkersConfig

/-- Reads the settings of the workers. -/
def read {ν : Type} (f : Format ν) (v : ν) : Option WorkersConfig := do
  let [size] ← f.fields ["blocking_pool_size"] v | none
  return { blockingPoolSize := ← Format.field standard.blockingPoolSize f.number size }

/-- The settings of the workers as JSON. -/
def toJson (c : WorkersConfig) : Json := .obj [("blocking_pool_size", .ofInt c.blockingPoolSize)]

end WorkersConfig

namespace FeedConfig

/-- Reads settings. -/
def read {ν : Type} (f : Format ν) (v : ν) : Option FeedConfig := do
  let [provider, connection, aggregation, cache, sink, symbols, workers] ←
    f.fields ["provider", "connection", "aggregation", "cache", "sink", "symbols", "workers"] v
    | none
  return {
    provider := ← Format.field standard.provider (ProviderConfig.read f) provider
    connection := ← Format.field standard.connection (ConnectionConfig.read f) connection
    aggregation := ← Format.field standard.aggregation (AggregationConfig.read f) aggregation
    cache := ← Format.field standard.cache (CacheConfig.read f) cache
    sink := ← Format.field standard.sink (SinkConfig.read f) sink
    symbols := ← Format.field standard.symbols (f.list f.text) symbols
    workers := ← Format.field standard.workers (WorkersConfig.read f) workers }

/-- The settings that a JSON value denotes; of repeated members the last one holds. -/
def ofJson? (v : Json) : Option FeedConfig := read .json v.settle

/-- The settings as JSON. -/
def toJson (c : FeedConfig) : Json :=
  .obj [("provider", c.provider.toJson), ("connection", c.connection.toJson),
    ("aggregation", c.aggregation.toJson), ("cache", c.cache.toJson), ("sink", c.sink.toJson),
    ("symbols", .arr (c.symbols.map .str)), ("workers", c.workers.toJson)]

/-- The settings that a file holds, with what the environment says; no text is no file. -/
def load (file : Option String) (env : Environment) : Except ConfigFault FeedConfig := do
  let some text := file | throw .missingFile
  let some written := (Yaml.Document.ofText? text).bind fun d => read (.yaml d) d.root
    | throw .malformed
  let config := written.override env
  config.validate
  return config

/-- The standard settings with what the environment says. -/
def ofEnvironment (env : Environment) : Except ConfigFault FeedConfig := do
  let config := standard.override env
  config.validate
  return config

end FeedConfig

end CandleFeed

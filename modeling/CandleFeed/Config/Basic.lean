import CandleFeed.Market.Granularity
import CandleFeed.Market.Instrument
import CandleFeed.Session.Backoff
import CandleFeed.Text.Fields
import CandleFeed.Text.Quoted

/-!
# Settings

A **`FeedConfig`** says where the provider is, how a connection is kept, which bars are built, where
quotes and bars go, and which instruments are subscribed at the start.  **`FeedConfig.standard`** is
what holds where nothing is said.

**`FeedConfig.override`** takes values from the environment: tokens and addresses that should not
stand in a file, and the list of instruments.  **`FeedConfig.validate`** refuses settings that
cannot work; the first fault that it finds is the answer.
-/

namespace CandleFeed

/-- Where the provider is and what is asked of it. -/
structure ProviderConfig where
  /-- The address. -/
  url : String
  /-- The origin that requests name. -/
  origin : String
  /-- The account's token. -/
  authToken : Option String
  /-- The fields of a quote. -/
  quoteFields : List String
deriving DecidableEq, Repr

/-- How a connection is kept. -/
structure ConnectionConfig where
  /-- After so many seconds without a word from the provider the connection is given up. -/
  heartbeatTimeoutSecs : Nat
  /-- After so many seconds a connection counts as stable. -/
  stabilityWindowSecs : Nat
  /-- The shortest wait before another attempt, in seconds. -/
  backoffBaseSecs : Nat
  /-- The longest one. -/
  backoffMaxSecs : Nat
  /-- How many payloads may wait to be dispatched. -/
  payloadBuffer : Nat
deriving DecidableEq, Repr

/-- Which bars are built. -/
structure AggregationConfig where
  /-- The lengths of the bars. -/
  granularities : List Granularity
  /-- Bars in progress are cached. -/
  cacheCurrentBars : Bool
deriving DecidableEq, Repr

/-- Where quotes are cached. -/
inductive CacheBackend where
  | memory | redis
deriving DecidableEq, Repr

/-- The cache. -/
structure CacheConfig where
  /-- What kind of cache it is. -/
  backend : CacheBackend
  /-- Where it is. -/
  redisUrl : Option String
  /-- How many seconds a quote lives. -/
  quoteTtlSecs : Nat
  /-- How many seconds a bar in progress lives. -/
  barTtlSecs : Nat
deriving DecidableEq, Repr

/-- Where bars are stored. -/
inductive SinkBackend where
  | memory | postgres
deriving DecidableEq, Repr

/-- The store of bars. -/
structure SinkConfig where
  /-- What kind of store it is. -/
  backend : SinkBackend
  /-- Where it is. -/
  databaseUrl : Option String
deriving DecidableEq, Repr

/-- The workers for requests that block. -/
structure WorkersConfig where
  /-- How many there are. -/
  blockingPoolSize : Nat
deriving DecidableEq, Repr

/-- All settings. -/
structure FeedConfig where
  /-- The provider. -/
  provider : ProviderConfig
  /-- The connection. -/
  connection : ConnectionConfig
  /-- The bars. -/
  aggregation : AggregationConfig
  /-- The cache. -/
  cache : CacheConfig
  /-- The store. -/
  sink : SinkConfig
  /-- The instruments subscribed at the start. -/
  symbols : List String
  /-- The workers. -/
  workers : WorkersConfig
deriving DecidableEq, Repr

/-- Why settings cannot be used. -/
inductive ConfigFault where
  /-- There is no such file. -/
  | missingFile
  /-- The file is not in the notation, or not of the form, that settings have. -/
  | malformed
  /-- The provider has no address. -/
  | emptyUrl
  /-- No bars would be built. -/
  | noGranularities
  /-- A connection would time out at once. -/
  | zeroTimeout
  /-- The waits before another attempt make no range. -/
  | backoffRange (base longest : Nat)
  /-- No payload could wait. -/
  | zeroBuffer
  /-- There would be no workers. -/
  | zeroWorkers
  /-- A kind of cache or store needs a setting that is missing. -/
  | missingSetting (backend setting : String)
  /-- A symbol names no instrument. -/
  | invalidSymbol (symbol : String) (fault : InstrumentFault)
deriving DecidableEq, Repr

/-- The message for a fault, where there is one. -/
def ConfigFault.message? : ConfigFault → Option String
  | missingFile => some "failed to read config file: No such file or directory (os error 2)"
  | malformed => none
  | emptyUrl => some "invalid config: provider.url is empty"
  | noGranularities =>
    some "invalid config: aggregation.granularities must name at least one granularity"
  | zeroTimeout => some "invalid config: connection timeouts must be non-zero"
  | backoffRange base longest =>
    some ("invalid config: invalid backoff range " ++ toString base ++ "s.." ++ toString longest ++
      "s")
  | zeroBuffer => some "invalid config: connection.payload_buffer must be non-zero"
  | zeroWorkers => some "invalid config: workers.blocking_pool_size must be non-zero"
  | missingSetting backend setting =>
    some (backend ++ " backend selected but " ++ setting ++ " is not set")
  | invalidSymbol symbol fault =>
    some ("invalid symbol " ++ Text.quoted symbol ++ ": " ++ fault.message)

namespace ProviderConfig

/-- The provider where nothing is said. -/
def standard : ProviderConfig where
  url := "wss://data.tradingview.com/socket.io/websocket"
  origin := "https://www.tradingview.com"
  authToken := none
  quoteFields :=
    ["lp", "volume", "bid", "ask", "ch", "chp", "open_price", "high_price", "low_price",
      "prev_close_price", "lp_time"]

end ProviderConfig

namespace ConnectionConfig

/-- The connection where nothing is said. -/
def standard : ConnectionConfig := ⟨45, 30, 1, 60, 1000⟩

/-- The schedule of waits. -/
def backoff (c : ConnectionConfig) : Backoff :=
  ⟨c.backoffBaseSecs * Clock.second, c.backoffMaxSecs * Clock.second⟩

end ConnectionConfig

/-- The bars where nothing is said. -/
def AggregationConfig.standard : AggregationConfig := ⟨Granularity.all, true⟩

/-- The cache where nothing is said. -/
def CacheConfig.standard : CacheConfig := ⟨.memory, none, 60, 300⟩

/-- The store where nothing is said. -/
def SinkConfig.standard : SinkConfig := ⟨.memory, none⟩

/-- The workers where nothing is said. -/
def WorkersConfig.standard : WorkersConfig := ⟨4⟩

namespace FeedConfig

/-- The settings where nothing is said. -/
def standard : FeedConfig :=
  ⟨.standard, .standard, .standard, .standard, .standard, [], .standard⟩

/-- The values of the environment, by name. -/
abbrev Environment := String → Option String

/-- The value of a variable, unless there is nothing but blanks in it. -/
def setting (env : Environment) (name : String) : Option String :=
  (env name).filter fun v => !Text.isBlankText v.toList

/-- The symbols in a list with commas; blanks around them and empty ones do not count. -/
def splitSymbols (text : String) : List String :=
  ((Text.fields ',' text.toList).map Text.trim).filterMap fun cs =>
    if cs.isEmpty then none else some (String.ofList cs)

/-- The settings with what the environment says. -/
def override (c : FeedConfig) (env : Environment) : FeedConfig :=
  { c with
    provider := { c.provider with
      authToken := (setting env "QUOTEBAR_AUTH_TOKEN").or c.provider.authToken }
    cache := { c.cache with redisUrl := (setting env "QUOTEBAR_REDIS_URL").or c.cache.redisUrl }
    sink := { c.sink with
      databaseUrl := (setting env "QUOTEBAR_DATABASE_URL").or c.sink.databaseUrl }
    symbols := ((setting env "QUOTEBAR_SYMBOLS").map splitSymbols).getD c.symbols }

/-- The instruments that symbols name. -/
def instrumentsOf : List String → Except ConfigFault (List Instrument)
  | [] => .ok []
  | s :: rest =>
    match Instrument.parse s with
    | .error fault => .error (.invalidSymbol s fault)
    | .ok i => (instrumentsOf rest).map (i :: ·)

/-- The instruments subscribed at the start. -/
def instruments (c : FeedConfig) : Except ConfigFault (List Instrument) := instrumentsOf c.symbols

/-- What is wrong with the settings apart from the symbols. -/
def fault? (c : FeedConfig) : Option ConfigFault :=
  let n := c.connection
  if c.provider.url.isEmpty then some .emptyUrl
  else if c.aggregation.granularities.isEmpty then some .noGranularities
  else if n.heartbeatTimeoutSecs == 0 || n.stabilityWindowSecs == 0 then some .zeroTimeout
  else if n.backoffBaseSecs == 0 || n.backoffMaxSecs < n.backoffBaseSecs then
    some (.backoffRange n.backoffBaseSecs n.backoffMaxSecs)
  else if n.payloadBuffer == 0 then some .zeroBuffer
  else if c.workers.blockingPoolSize == 0 then some .zeroWorkers
  else if c.cache.backend == .redis && c.cache.redisUrl.isNone then
    some (.missingSetting "redis" "cache.redis_url")
  else if c.sink.backend == .postgres && c.sink.databaseUrl.isNone then
    some (.missingSetting "postgres" "sink.database_url")
  else none

/-- The settings can be used. -/
def validate (c : FeedConfig) : Except ConfigFault Unit :=
  match c.fault? with
  | some fault => .error fault
  | none => c.instruments.map fun _ => ()

end FeedConfig

end CandleFeed

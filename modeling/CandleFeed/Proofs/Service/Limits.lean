import CandleFeed.Proofs.Config.Checks
import CandleFeed.Proofs.Dispatch.Safety
import CandleFeed.Proofs.Service.Gate
import CandleFeed.Proofs.Session.Breakdown

/-!
# What settings can ask for

Settings that pass their checks may still ask for more than there is.  The checks have lower bounds
for capacities and lengths of time, and no upper ones.  Of each setting there is one place where too
much of it breaks something down:

* the size of the pool, when the service is created (`Service.new_of_validate`);
* the capacity of the queue, at the start (`Service.start_of_new`);
* the provider's silence, at the end of every chunk (`Client.step_broken_iff`);
* the lengths of life of quotes and bars, at every tick that is taken
  (`Service.pathOf_brokenOff_iff`).

**`Service.limits_of_validate`** has all of them, and says that nothing else breaks down.
-/

namespace CandleFeed

namespace FeedConfig

/-- What the checks make sure of, as far as sizes go. -/
theorem sizes_of_validate {c : FeedConfig} (h : c.validate = .ok ()) :
    c.aggregation.granularities ≠ [] ∧ 0 < c.connection.payloadBuffer ∧
      0 < c.workers.blockingPoolSize ∧ ∃ instruments, c.instruments = .ok instruments := by
  obtain ⟨hworkable, hinstruments⟩ := validate_eq_ok_iff.mp h
  exact ⟨hworkable.granularities_ne, hworkable.buffer_pos, hworkable.workers_pos, hinstruments⟩

end FeedConfig

namespace Service

variable {config : FeedConfig} {link : CacheLink} {sink : BarSink} {source : Option HistorySource}
  {s : Service}

/-! ## Capacities -/

/-- There is a service for settings that pass their checks, unless the pool would be too large. -/
theorem new_of_validate (h : config.validate = .ok ()) (link : CacheLink) (sink : BarSink)
    (source : Option HistorySource) :
    (config.workers.blockingPoolSize ≤ PayloadQueue.mostPlaces →
      ∃ s, new config link sink source = .ok s) ∧
    (PayloadQueue.mostPlaces < config.workers.blockingPoolSize →
      new config link sink source = .error .overCapacity) := by
  obtain ⟨-, -, hpool, instruments, hinstruments⟩ := FeedConfig.sizes_of_validate h
  have hsize : poolSize config.workers.blockingPoolSize = config.workers.blockingPoolSize :=
    Nat.max_eq_left hpool
  unfold new
  rw [h, hsize, hinstruments]
  constructor
  · intro hfits
    exact ⟨_, if_neg (Nat.not_lt.mpr hfits)⟩
  · intro hexceeds
    exact if_pos hexceeds

/-- Subscribing an instrument changes neither the state of the client nor whether it has been
started. -/
theorem subscribe_fresh (s : Service) (i : Instrument) :
    (s.subscribe i).1.client.state = s.client.state ∧
      (s.subscribe i).1.client.started = s.client.started := by
  have hstarted : ∀ (c : Client) (change : SubscriptionChange),
      (c.queueChange change).started = c.started := by
    intro c change
    unfold Client.queueChange
    split <;> rfl
  unfold subscribe Client.subscribe
  simp only
  split
  · exact ⟨Client.queueChange_state _ _, hstarted _ _⟩
  · exact ⟨rfl, rfl⟩

/-- Subscribing instruments changes neither. -/
theorem subscribeAll_fresh (s : Service) (is : List Instrument) :
    (s.subscribeAll is).client.state = s.client.state ∧
      (s.subscribeAll is).client.started = s.client.started := by
  induction is generalizing s with
  | nil => exact ⟨rfl, rfl⟩
  | cons i is ih =>
    obtain ⟨hstate, hstarted⟩ := s.subscribe_fresh i
    obtain ⟨hstate', hstarted'⟩ := ih (s.subscribe i).1
    exact ⟨hstate'.trans hstate, hstarted'.trans hstarted⟩

/-- A service that has been neither started nor stopped starts if its queue can be had. -/
theorem start_of_fresh {s : Service} (hstopped : s.stopped = false) (hbegun : s.begun = false)
    (hstate : s.client.state = .disconnected) (hstarted : s.client.started = false) :
    s.start.2 = if PayloadQueue.isCapacity s.config.connection.payloadBuffer then .ok ()
      else .error .overCapacity := by
  have hconnect : ∀ c : Client, c.state = .disconnected → c.started = false →
      c.connect = .ok { c with started := true, phase := .starting } := by
    intro c hstate hstarted
    unfold Client.connect
    rw [hstate, hstarted]
    rfl
  obtain ⟨hstate', hstarted'⟩ :=
    subscribeAll_fresh { s with begun := true, dispatcher := .running } s.instruments
  unfold start
  rw [if_neg (by simp [hstopped]), if_neg (by simp [hbegun])]
  simp only
  cases PayloadQueue.isCapacity s.config.connection.payloadBuffer with
  | false => rfl
  | true =>
    simp only [Bool.not_true, Bool.false_eq_true, if_false, if_true]
    rw [hconnect _ (hstate'.trans hstate) (hstarted'.trans hstarted)]

/-- A new service starts, unless its queue would be too large. -/
theorem start_of_new (h : config.validate = .ok ()) (hnew : new config link sink source = .ok s) :
    (config.connection.payloadBuffer ≤ PayloadQueue.mostPlaces → s.start.2 = .ok ()) ∧
    (PayloadQueue.mostPlaces < config.connection.payloadBuffer →
      s.start.2 = .error .overCapacity) := by
  obtain ⟨-, hbuffer, -⟩ := FeedConfig.sizes_of_validate h
  obtain ⟨instruments, rfl⟩ := eq_create_of_new hnew
  have hcapacity : PayloadQueue.isCapacity config.connection.payloadBuffer = true ↔
      config.connection.payloadBuffer ≤ PayloadQueue.mostPlaces := by
    unfold PayloadQueue.isCapacity
    simp [hbuffer]
  have hstart := start_of_fresh (s := create config instruments link sink source) rfl rfl rfl rfl
  constructor
  · intro hfits
    exact hstart.trans (if_pos (hcapacity.mpr hfits))
  · intro hexceeds
    exact hstart.trans (if_neg fun hfits => Nat.not_le.mpr hexceeds (hcapacity.mp hfits))

/-! ## Ticks -/

/-- A tick that lies well before the last buckets breaks off a path exactly if its instrument is
subscribed and an entry that is to be written would expire after the last instant, on a cache that
never fails. -/
theorem pathOf_brokenOff_iff (h : config.validate = .ok ()) {e : Engine}
    (he : e.Reachable config.aggregation.granularities) (hnever : link.NeverFails)
    {now : Nat} {receivedAt : Timestamp} {subscribed : Registry} {session : String}
    {payload : List Char} {quote : Quote}
    (hquote : TickPath.classify session payload receivedAt = .quote quote)
    (hearly : quote.timestamp.seconds < 8210266862400) :
    ({ pathOf config link with engine := e }.dispatch now receivedAt subscribed session
        payload).result = .brokenOff ↔
      subscribed.contains quote.instrument = true ∧
        (Clock.lastInstant < now + config.cache.quoteTtlSecs * Clock.second ∨
          config.aggregation.cacheCurrentBars = true ∧
            Clock.lastInstant < now + config.cache.barTtlSecs * Clock.second) := by
  obtain ⟨hgranularities, -⟩ := FeedConfig.sizes_of_validate h
  have hpositive : 0 < (Granularity.sorted config.aggregation.granularities).length := by
    obtain ⟨g, hg⟩ := List.exists_mem_of_ne_nil _ hgranularities
    exact List.length_pos_of_mem (Granularity.mem_sorted.mpr hg)
  have hends : (e.addTick quote.tick).2 ≠ .outOfTime := by
    rw [ne_eq, he.outOfTime_iff]
    rintro ⟨g, -, length, hlength, hlate⟩
    have hlongest : length ≤ 14400 := by
      cases g <;> cases hlength <;> decide
    change _ ≤ quote.timestamp.seconds at hlate
    omega
  have houtlives := TickPath.outlivesClock_iff (p := { pathOf config link with engine := e })
    hnever now hpositive
  rw [TickPath.dispatch_brokenOff_iff]
  change (∃ q : Quote, _ ∧ _ ∧ ((e.addTick q.tick).2 = .outOfTime ∨ TickPath.OutlivesClock _ now
    e.granularities.length)) ↔ _
  rw [he.granularities_eq, houtlives]
  constructor
  · rintro ⟨q, hq, hsubscribed, hbreaks⟩
    obtain rfl := Classified.quote.inj (hquote.symm.trans hq)
    exact ⟨hsubscribed, hbreaks.resolve_left hends⟩
  · rintro ⟨hsubscribed, hlate⟩
    exact ⟨quote, hquote, hsubscribed, Or.inr hlate⟩

/-! ## All limits -/

/-- **Where settings that pass their checks break something down**, in a service that keeps its
quotes in a cache that never fails: the service cannot be created or started for a pool or a queue
that is too large, and otherwise can; a session of its client breaks down at the end of a chunk, and
a tick of a subscribed instrument well before the last buckets breaks off the path, exactly if a
deadline that they need lies after the last instant.  A listening session takes any chunk. -/
theorem limits_of_validate (h : config.validate = .ok ()) :
    (∀ link sink source,
      (config.workers.blockingPoolSize ≤ PayloadQueue.mostPlaces →
        ∃ s, new config link sink source = .ok s) ∧
      (PayloadQueue.mostPlaces < config.workers.blockingPoolSize →
        new config link sink source = .error .overCapacity)) ∧
    (∀ link sink source s, new config link sink source = .ok s →
      (config.connection.payloadBuffer ≤ PayloadQueue.mostPlaces → s.start.2 = .ok ()) ∧
      (PayloadQueue.mostPlaces < config.connection.payloadBuffer →
        s.start.2 = .error .overCapacity)) ∧
    (∀ c : Client, c.settings = .ofConfig config →
      (∀ session l now chunk, c.phase = .listening session l →
        ∃ c' effects, c.step now (.received chunk) = some (c', effects)) ∧
      (∀ now e c' effects, c.step now e = some (c', effects) →
        (c'.phase = .broken ↔ c.phase.endsChunk e = true ∧
          Clock.lastInstant < now + config.connection.heartbeatTimeoutSecs * Clock.second))) ∧
    (∀ (e : Engine) (link : CacheLink) now receivedAt (subscribed : Registry) session payload quote,
      e.Reachable config.aggregation.granularities → link.NeverFails →
      TickPath.classify session payload receivedAt = .quote quote →
      quote.timestamp.seconds < 8210266862400 →
      (({ pathOf config link with engine := e }.dispatch now receivedAt subscribed session
          payload).result = .brokenOff ↔
        subscribed.contains quote.instrument = true ∧
          (Clock.lastInstant < now + config.cache.quoteTtlSecs * Clock.second ∨
            config.aggregation.cacheCurrentBars = true ∧
              Clock.lastInstant < now + config.cache.barTtlSecs * Clock.second))) := by
  refine ⟨new_of_validate h, fun link sink source s hnew => start_of_new h hnew,
    fun c hsettings => ⟨fun session l now chunk hphase => c.step_received hphase now chunk,
      fun now e c' effects hstep => ?_⟩,
    fun e link now receivedAt subscribed session payload quote he hnever hquote hearly =>
      pathOf_brokenOff_iff h he hnever hquote hearly⟩
  have hbroken := Client.step_broken_iff hstep
  rw [hsettings] at hbroken
  exact hbroken

/-- Settings in which a quote lives as long as can be said, and bars in progress are not cached. -/
def longLived : FeedConfig :=
  { Ledger.plainConfig with
    cache := { CacheConfig.standard with quoteTtlSecs := Nat.pow 2 64 - 1 } }

/-- Such settings pass their checks, and there is a service that starts; the first tick of a
subscribed instrument breaks its path off. -/
theorem limits_of_validate_longLived : ∃ i s quote, i.symbol = "AAPL" ∧
    longLived.validate = .ok () ∧ new longLived .reliable .plain none = .ok s ∧
    s.start.2 = .ok () ∧ (Engine.new [.minute1, .hour1]).Reachable [.minute1, .hour1] ∧
    TickPath.classify "s" (TickPath.datedPayload "1704207600") .epoch = .quote quote ∧
    quote.timestamp.seconds < 8210266862400 ∧
    ((pathOf longLived .reliable).dispatch 0 .epoch (Registry.empty.insert i).1 "s"
      (TickPath.datedPayload "1704207600")).result = .brokenOff := by
  let aapl : Instrument := ⟨"NASDAQ", "AAPL", by decide, by decide, by decide⟩
  let usual : Quote := ⟨aapl, ⟨1704207600, 0, by decide, by decide, by decide⟩, 1, none, none, none,
    none, none, none, none, none, none⟩
  have hvalid : longLived.validate = .ok () := by decide +kernel
  have hclassify : TickPath.classify "s" (TickPath.datedPayload "1704207600") .epoch =
      .quote usual := by decide +kernel
  obtain ⟨hnew, hstart, -, hticks⟩ := limits_of_validate hvalid
  obtain ⟨s, hs⟩ := (hnew .reliable .plain none).1 (by decide)
  have hlate : (usual.timestamp.seconds < 8210266862400) := by decide
  have hbreaks := (hticks (.new [.minute1, .hour1]) .reliable 0 .epoch
    (Registry.empty.insert aapl).1 "s" _ usual .new (fun _ => rfl) hclassify hlate).mpr
    ⟨by decide, Or.inl (by decide)⟩
  exact ⟨aapl, s, usual, rfl, hvalid, hs, (hstart _ _ _ s hs).1 (by decide), .new, hclassify, hlate,
    hbreaks⟩

/-- **Settings that pass their checks can end the dispatcher**: with the first quote that is to be
written. -/
theorem valid_breaksOff : ∃ i s x y, i.symbol = "AAPL" ∧ longLived.validate = .ok () ∧
    new longLived .reliable .plain none = .ok s ∧
    (Interplay.start s).run (Interplay.arrivalSections i [Ledger.quotePayload "100" "1704207600"] ++
      [.fetch, .judge .epoch]) = some x ∧ x.service.dispatcher = .running ∧
    x.run [.writeQuote 0] = some y ∧ y.service.dispatcher = .broken := by
  let aapl : Instrument := ⟨"NASDAQ", "AAPL", by decide, by decide, by decide⟩
  have h : ((Interplay.outcome? longLived (Interplay.arrivalSections aapl
      [Ledger.quotePayload "100" "1704207600"] ++ [.fetch, .judge .epoch])).bind fun x =>
        (x.run [.writeQuote 0]).map fun y => (x.service.dispatcher, y.service.dispatcher)) =
      some (.running, .broken) := by decide +kernel
  obtain ⟨s, x, y, hnew, hrun, hwrite, heq⟩ := Interplay.outcome?_bind_eq_some h
  obtain ⟨hrunning, hbroken⟩ := Prod.mk.inj heq
  exact ⟨aapl, s, x, y, rfl, by decide +kernel, hnew, hrun, hrunning, hwrite, hbroken⟩

end Service

end CandleFeed

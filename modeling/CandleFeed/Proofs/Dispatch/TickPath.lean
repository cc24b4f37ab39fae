import CandleFeed.Dispatch.TickPath
import CandleFeed.Proofs.Aggregation.Calls

/-!
# What a payload does to the engine

Of all that a payload may be, only a tick that is taken reaches the engine.
**`TickPath.EngineEffect`** says what a payload does there, and **`TickPath.dispatch_engineEffect`**
that it does nothing else: with the outcome `tick` the engine has taken this tick, and with any
other, unless the path breaks off, it is as it was.
-/

namespace CandleFeed

namespace TickPath

/-- A write to the cache leaves the engine as it is. -/
theorem noteWrite_engine (p : TickPath) (kind : String)
    (write : QuoteCache × Except CacheFault Unit) :
    (p.noteWrite kind write).path.engine = p.engine := by
  unfold noteWrite
  split <;> rfl

/-- Writing bars in progress leaves the engine as it is. -/
theorem recordBars_engine (p : TickPath) (now : Nat) (bars : List OpenBar) :
    (p.recordBars now bars).path.engine = p.engine := by
  induction bars generalizing p with
  | nil => rfl
  | cons bar bars ih =>
    have hfirst : (p.recordBar now bar).path.engine = p.engine := p.noteWrite_engine _ _
    simp only [recordBars]
    split
    · exact (ih _).trans hfirst
    · exact hfirst

/-- Recording leaves the engine as it is. -/
theorem record_engine (p : TickPath) (now : Nat) (quote : Quote) (current : List OpenBar) :
    (p.record now quote current).path.engine = p.engine := by
  have hfirst : (p.recordQuote now quote).path.engine = p.engine := p.noteWrite_engine _ _
  simp only [record]
  split
  · exact (recordBars_engine _ _ _).trans hfirst
  · exact hfirst

/-- A write to the cache leaves what the write made of it. -/
theorem noteWrite_quotes (p : TickPath) (kind : String)
    (write : QuoteCache × Except CacheFault Unit) :
    (p.noteWrite kind write).path.quotes = write.1 := by
  unfold noteWrite
  split <;> rfl

/-- A write to the cache delivers no bars. -/
theorem noteWrite_delivered (p : TickPath) (kind : String)
    (write : QuoteCache × Except CacheFault Unit) : (p.noteWrite kind write).delivered = [] := by
  unfold noteWrite
  split <;> rfl

/-- Writing bars in progress delivers no bars. -/
theorem recordBars_delivered (p : TickPath) (now : Nat) (bars : List OpenBar) :
    (p.recordBars now bars).delivered = [] := by
  induction bars generalizing p with
  | nil => rfl
  | cons bar bars ih =>
    simp only [recordBars]
    split
    · exact ih _
    · exact p.noteWrite_delivered _ _

/-- Recording delivers no bars. -/
theorem record_delivered (p : TickPath) (now : Nat) (quote : Quote) (current : List OpenBar) :
    (p.record now quote current).delivered = [] := by
  simp only [record]
  split
  · exact recordBars_delivered _ _ _
  · exact p.noteWrite_delivered _ _

/-- **What a payload does to the engine.** -/
inductive EngineEffect (p : TickPath) (subscribed : Registry) (r : PathStep Dispatched) : Prop
  /-- Its tick has been added. -/
  | tick (quote : Quote) (m : Emission) (hresult : r.result = .tick quote)
      (hsubscribed : subscribed.contains quote.instrument = true)
      (hperform : p.engine.perform (.tick quote.tick) = some m)
      (hengine : r.path.engine = m.engine) (hdelivered : r.delivered = m.delivered)
  /-- It is no tick, or one that is not taken. -/
  | nothing (hresult : ∀ quote, r.result ≠ .tick quote) (hengine : r.path.engine = p.engine)
      (hdelivered : r.delivered = [])
  /-- The path breaks off. -/
  | breaks (hresult : r.result = .brokenOff)

/-- What is counted and written on the way makes no difference to the effect. -/
theorem EngineEffect.of_same {p : TickPath} {subscribed : Registry} {r r' : PathStep Dispatched}
    (h : p.EngineEffect subscribed r) (hresult : r'.result = r.result)
    (hengine : r'.path.engine = r.path.engine) (hdelivered : r'.delivered = r.delivered) :
    p.EngineEffect subscribed r' := by
  cases h with
  | tick quote m hr hsubscribed hperform he hd =>
    exact .tick quote m (hresult.trans hr) hsubscribed hperform (hengine.trans he)
      (hdelivered.trans hd)
  | nothing hr he hd =>
    exact .nothing (hresult ▸ hr) (hengine.trans he) (hdelivered.trans hd)
  | breaks hr => exact .breaks (hresult.trans hr)

/-- A quote has one of these effects. -/
theorem take_engineEffect (p : TickPath) (now : Nat) (subscribed : Registry) (quote : Quote) :
    p.EngineEffect subscribed (p.take now subscribed quote) := by
  unfold take accept
  by_cases hsubscribed : subscribed.contains quote.instrument = true
  · cases hadd : p.engine.addTick quote.tick with
    | mk m outcome =>
      simp only [hsubscribed, if_true]
      cases outcome with
      | outOfTime => exact .breaks rfl
      | applied rolled current =>
        simp only
        split
        · refine .tick quote m rfl hsubscribed ?_ (record_engine _ _ _ _) rfl
          simp only [Engine.perform, hadd]
        · exact .breaks rfl
  · simp only [hsubscribed]
    exact .nothing (by simp) rfl rfl

/-- **Only a tick reaches the engine.** -/
theorem dispatch_engineEffect (p : TickPath) (now : Nat) (receivedAt : Timestamp)
    (subscribed : Registry) (session : String) (payload : List Char) :
    p.EngineEffect subscribed (p.dispatch now receivedAt subscribed session payload) := by
  unfold dispatch
  cases classify session payload receivedAt with
  | quote quote =>
    have htake := p.take_engineEffect now subscribed quote
    simp only
    generalize p.take now subscribed quote = taken at htake ⊢
    split
    · exact htake.of_same rfl rfl rfl
    · exact htake
  | heartbeat => exact .nothing (by simp) rfl rfl
  | sessionControl => exact .nothing (by simp) rfl rfl
  | dropped reason => exact .nothing (by simp) rfl rfl

end TickPath

end CandleFeed

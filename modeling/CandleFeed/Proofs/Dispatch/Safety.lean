import CandleFeed.Proofs.Aggregation.Ends
import CandleFeed.Proofs.Dispatch.TickPath
import CandleFeed.Proofs.Storage.QuoteCache

/-!
# When a tick path breaks off

A tick path breaks off in two places: in the engine, where the tick's bucket has no end, and at the
cache, where an entry would expire after the last instant (**`TickPath.OutlivesClock`**).
**`TickPath.dispatch_brokenOff_iff`** says that there are no others.

Where entries live no longer than they do by default, only the engine is left: what decides is then
the time that the provider gives a quote (**`TickPath.dispatch_standard`**).  A path that has broken
off is still one that takes the next payload.
-/

namespace CandleFeed

/-- A tick that goes through leaves a bar in progress for each granularity. -/
theorem Engine.pass_current_length {tick : Tick} {gs : List Granularity} {p : Pass}
    (h : (pass tick p gs).complete = true) :
    (pass tick p gs).current.length = p.current.length + gs.length := by
  induction gs generalizing p with
  | nil => rfl
  | cons g gs ih =>
    obtain ⟨b, closed, -, hpass⟩ := pass_cons_of_complete h
    rw [hpass] at h ⊢
    rw [ih h, List.length_append, List.length_singleton, List.length_cons]
    omega

/-- A tick that is applied leaves a bar in progress for each granularity. -/
theorem Engine.current_length_of_applied {e : Engine} {tick : Tick} {rolled : Nat}
    {current : List OpenBar} (h : (e.addTick tick).2 = .applied rolled current) :
    current.length = e.granularities.length := by
  unfold addTick at h
  simp only at h
  split at h
  · rename_i hc
    obtain ⟨-, rfl⟩ := TickOutcome.applied.inj h
    rw [pass_current_length hc, List.length_nil, Nat.zero_add]
  · exact absurd h (by simp)

namespace TickPath

variable {p : TickPath} {now : Nat} {quote : Quote}

/-! ## Writes -/

/-- **A write to the cache**: a text is set under a key, to live for some time.  It changes the
cache alone, the call counts, and it ends the path exactly if the call is made and the text would
expire after the last instant. -/
structure WritesEntry (p : TickPath) (now ttl : Nat) (r : PathStep Bool) : Prop where
  path : ∃ link : CacheLink, link.failure = p.quotes.link.failure ∧
    link.calls = p.quotes.link.calls + 1 ∧ r.path = { p with quotes := { p.quotes with link } }
  ends : r.result = false ↔
    p.quotes.link.failure p.quotes.link.calls = none ∧ Clock.lastInstant < now + ttl

/-- Noting what came of setting a text is such a write. -/
theorem writesEntry_noteWrite (p : TickPath) (kind key value : String) (now ttl : Nat) :
    p.WritesEntry now ttl (p.noteWrite kind
      ({ p.quotes with link := (p.quotes.link.set now key value (some ttl)).1 },
        (p.quotes.link.set now key value (some ttl)).2)) := by
  have hresult : ∀ write : QuoteCache × Except CacheFault Unit,
      (p.noteWrite kind write).result = false ↔ write.2 = .error .outOfTime := by
    intro write
    unfold noteWrite
    split
    · rename_i h
      simp [h]
    · rename_i h
      simp [h]
    · rename_i fault hfault h
      rw [h]
      simpa using hfault
  refine ⟨⟨_, p.quotes.link.set_failure now key value (some ttl),
    p.quotes.link.set_calls now key value (some ttl), ?_⟩, ?_⟩
  · unfold noteWrite
    split <;> rfl
  · exact (hresult _).trans (p.quotes.link.set_outOfTime_iff now key value ttl)

/-- The quote is such a write. -/
theorem writesEntry_recordQuote (p : TickPath) (now : Nat) (quote : Quote) :
    p.WritesEntry now p.quotes.quoteTtl (p.recordQuote now quote) :=
  p.writesEntry_noteWrite _ _ _ now _

/-- A bar in progress is such a write. -/
theorem writesEntry_recordBar (p : TickPath) (now : Nat) (bar : OpenBar) :
    p.WritesEntry now p.quotes.barTtl (p.recordBar now bar) :=
  p.writesEntry_noteWrite _ _ _ now _

/-- Writing bars in progress changes the cache alone. -/
theorem recordBars_path (p : TickPath) (now : Nat) (bars : List OpenBar) :
    ∃ link : CacheLink, link.failure = p.quotes.link.failure ∧
      (p.recordBars now bars).path = { p with quotes := { p.quotes with link } } := by
  induction bars generalizing p with
  | nil => exact ⟨p.quotes.link, rfl, rfl⟩
  | cons bar bars ih =>
    obtain ⟨link, hfailure, -, hfirst⟩ := (p.writesEntry_recordBar now bar).path
    simp only [recordBars]
    split
    · obtain ⟨link', hfailure', hrest⟩ := ih (p.recordBar now bar).path
      rw [hrest, hfirst]
      rw [hfirst] at hfailure'
      exact ⟨link', hfailure'.trans hfailure, rfl⟩
    · exact ⟨link, hfailure, hfirst⟩

/-- Recording changes the cache alone. -/
theorem record_path (p : TickPath) (now : Nat) (quote : Quote) (current : List OpenBar) :
    ∃ link : CacheLink, link.failure = p.quotes.link.failure ∧
      (p.record now quote current).path = { p with quotes := { p.quotes with link } } := by
  obtain ⟨link, hfailure, -, hfirst⟩ := (p.writesEntry_recordQuote now quote).path
  simp only [record]
  split
  · obtain ⟨link', hfailure', hrest⟩ := recordBars_path (p.recordQuote now quote).path now current
    rw [hrest, hfirst]
    rw [hfirst] at hfailure'
    exact ⟨link', hfailure'.trans hfailure, rfl⟩
  · exact ⟨link, hfailure, hfirst⟩

/-- Writing bars in progress ends the path exactly if they would expire after the last instant and
the cache makes one of the calls. -/
theorem recordBars_result (p : TickPath) (now : Nat) (bars : List OpenBar) :
    (p.recordBars now bars).result = false ↔ Clock.lastInstant < now + p.quotes.barTtl ∧
      ∃ k < bars.length, p.quotes.link.failure (p.quotes.link.calls + k) = none := by
  induction bars generalizing p with
  | nil => simp [recordBars]
  | cons bar bars ih =>
    obtain ⟨⟨link, hfailure, hcalls, hpath⟩, hfirst⟩ := p.writesEntry_recordBar now bar
    have hrest := ih (p.recordBar now bar).path
    simp only [hpath, hfailure, hcalls] at hrest
    -- the first bar is the call with the number `0`, and the rest begin with `1`
    have hsplit : (∃ k < (bar :: bars).length,
        p.quotes.link.failure (p.quotes.link.calls + k) = none) ↔
          p.quotes.link.failure p.quotes.link.calls = none ∨
            ∃ k < bars.length, p.quotes.link.failure (p.quotes.link.calls + 1 + k) = none := by
      constructor
      · rintro ⟨k, hk, hnone⟩
        cases k with
        | zero => exact Or.inl hnone
        | succ k => exact Or.inr ⟨k, Nat.lt_of_succ_lt_succ hk, by rwa [Nat.add_right_comm]⟩
      · rintro (hnone | ⟨k, hk, hnone⟩)
        · exact ⟨0, Nat.zero_lt_succ _, hnone⟩
        · exact ⟨k + 1, Nat.succ_lt_succ hk, by rwa [Nat.add_right_comm] at hnone⟩
    rw [hsplit]
    simp only [recordBars]
    cases hresult : (p.recordBar now bar).result with
    | false =>
      obtain ⟨hnone, hlate⟩ := hfirst.mp hresult
      simp only [Bool.false_eq_true, if_false, hresult, true_iff]
      exact ⟨hlate, Or.inl hnone⟩
    | true =>
      have hnot : ¬ (p.quotes.link.failure p.quotes.link.calls = none ∧
          Clock.lastInstant < now + p.quotes.barTtl) := by
        rw [← hfirst, hresult]
        exact Bool.noConfusion
      simp only [if_true]
      rw [hpath, hrest]
      constructor
      · rintro ⟨hlate, hlater⟩
        exact ⟨hlate, Or.inr hlater⟩
      · rintro ⟨hlate, hnone | hlater⟩
        · exact absurd ⟨hnone, hlate⟩ hnot
        · exact ⟨hlate, hlater⟩

/-- A write that the cache makes would have its entry expire after the last instant: that of the
quote or, where bars in progress are written, of one of them.  So many bars are written. -/
def OutlivesClock (p : TickPath) (now bars : Nat) : Prop :=
  (p.quotes.link.failure p.quotes.link.calls = none ∧
      Clock.lastInstant < now + p.quotes.quoteTtl) ∨
    (p.cachesBars = true ∧ Clock.lastInstant < now + p.quotes.barTtl ∧
      ∃ k < bars, p.quotes.link.failure (p.quotes.link.calls + 1 + k) = none)

/-- Recording ends the path exactly if an entry would expire after the last instant. -/
theorem record_result (p : TickPath) (now : Nat) (quote : Quote) (current : List OpenBar) :
    (p.record now quote current).result = false ↔ p.OutlivesClock now current.length := by
  obtain ⟨⟨link, hfailure, hcalls, hpath⟩, hfirst⟩ := p.writesEntry_recordQuote now quote
  have hrest := recordBars_result (p.recordQuote now quote).path now current
  simp only [hpath, hfailure, hcalls] at hrest
  unfold OutlivesClock
  simp only [record]
  cases hresult : (p.recordQuote now quote).result with
  | false =>
    simp only [Bool.false_and, Bool.false_eq_true, if_false, hresult, true_iff]
    exact Or.inl (hfirst.mp hresult)
  | true =>
    have hnot : ¬ (p.quotes.link.failure p.quotes.link.calls = none ∧
        Clock.lastInstant < now + p.quotes.quoteTtl) := by
      rw [← hfirst, hresult]
      exact Bool.noConfusion
    rw [or_iff_right hnot]
    cases hbars : p.cachesBars with
    | false => simp [hresult]
    | true =>
      simp only [Bool.and_true, if_true, true_and]
      rw [hpath]
      exact hrest

/-- No entry would expire after the last instant while there is room for both lengths of life. -/
theorem not_outlivesClock (hquote : now + p.quotes.quoteTtl ≤ Clock.lastInstant)
    (hbar : now + p.quotes.barTtl ≤ Clock.lastInstant) (bars : Nat) :
    ¬ p.OutlivesClock now bars := by
  rintro (⟨-, hlate⟩ | ⟨-, hlate, -⟩)
  · exact absurd hlate (Nat.not_lt.mpr hquote)
  · exact absurd hlate (Nat.not_lt.mpr hbar)

/-- On a cache that never fails an entry would expire after the last instant exactly if there is no
room for the quote's length of life, or for that of the bars where some are written. -/
theorem outlivesClock_iff (hnever : p.quotes.link.NeverFails) (now : Nat) {bars : Nat}
    (hbars : 0 < bars) :
    p.OutlivesClock now bars ↔ Clock.lastInstant < now + p.quotes.quoteTtl ∨
      p.cachesBars = true ∧ Clock.lastInstant < now + p.quotes.barTtl := by
  have hsome : ∃ k < bars, p.quotes.link.failure (p.quotes.link.calls + 1 + k) = none :=
    ⟨0, hbars, hnever _⟩
  unfold OutlivesClock
  rw [and_iff_right (hnever _), and_iff_left hsome]

/-! ## Payloads -/

/-- A quote breaks off the path if its instrument is subscribed, and either the engine has no end
for a bucket of its tick or the cache would have an entry outlive the clock. -/
theorem take_brokenOff_iff (p : TickPath) (now : Nat) (subscribed : Registry) (quote : Quote) :
    (p.take now subscribed quote).result = .brokenOff ↔
      subscribed.contains quote.instrument = true ∧
        ((p.engine.addTick quote.tick).2 = .outOfTime ∨
          p.OutlivesClock now p.engine.granularities.length) := by
  unfold take accept
  by_cases hsubscribed : subscribed.contains quote.instrument = true
  · cases hadd : p.engine.addTick quote.tick with
    | mk m outcome =>
      simp only [hsubscribed, if_true, true_and]
      cases outcome with
      | outOfTime => simp
      | applied rolled current =>
        have hlength : current.length = p.engine.granularities.length :=
          Engine.current_length_of_applied (congrArg Prod.snd hadd)
        have hrecord : (record { p with engine := m.engine } now quote current).result = false ↔
            p.OutlivesClock now p.engine.granularities.length := by
          rw [record_result, hlength]
          rfl
        simp only [← hrecord, reduceCtorEq, false_or]
        split
        · rename_i hresult
          simp [hresult]
        · rename_i hresult
          simp [hresult]
  · simp [hsubscribed]

/-- **When a tick path breaks off**: at a quote of a subscribed instrument only, in the engine or at
the cache. -/
theorem dispatch_brokenOff_iff (p : TickPath) (now : Nat) (receivedAt : Timestamp)
    (subscribed : Registry) (session : String) (payload : List Char) :
    (p.dispatch now receivedAt subscribed session payload).result = .brokenOff ↔
      ∃ quote, classify session payload receivedAt = .quote quote ∧
        subscribed.contains quote.instrument = true ∧
        ((p.engine.addTick quote.tick).2 = .outOfTime ∨
          p.OutlivesClock now p.engine.granularities.length) := by
  unfold dispatch
  cases classify session payload receivedAt with
  | quote quote =>
    simp only [Classified.quote.injEq, exists_eq_left']
    rw [← take_brokenOff_iff]
    split
    · rfl
    · rfl
  | heartbeat => simp
  | sessionControl => simp
  | dropped reason => simp

/-- A path that a payload may leave: one tick at most has come to the engine, and how long entries
live, whether bars in progress are written and which calls fail is as before. -/
def Continues (p q : TickPath) : Prop :=
  ∃ e, ∃ link : CacheLink, q = ⟨e, { p.quotes with link }, p.cachesBars⟩ ∧
    link.failure = p.quotes.link.failure ∧
    (e = p.engine ∨ ∃ tick, e = (p.engine.addTick tick).1.engine)

/-- A payload leaves such a path. -/
theorem dispatch_continues (p : TickPath) (now : Nat) (receivedAt : Timestamp)
    (subscribed : Registry) (session : String) (payload : List Char) :
    p.Continues (p.dispatch now receivedAt subscribed session payload).path := by
  have hsame : ∀ r : PathStep Dispatched, r.path = p → p.Continues r.path :=
    fun r hr => ⟨p.engine, p.quotes.link, hr, rfl, Or.inl rfl⟩
  have htake : ∀ quote, p.Continues (p.take now subscribed quote).path := by
    intro quote
    unfold take accept
    by_cases hsubscribed : subscribed.contains quote.instrument = true
    · cases hadd : p.engine.addTick quote.tick with
      | mk m outcome =>
        have htick : ∃ tick, m.engine = (p.engine.addTick tick).1.engine :=
          ⟨quote.tick, by rw [hadd]⟩
        simp only [hsubscribed, if_true]
        cases outcome with
        | outOfTime => exact ⟨m.engine, p.quotes.link, rfl, rfl, Or.inr htick⟩
        | applied rolled current =>
          obtain ⟨link, hfailure, hrecord⟩ :=
            record_path { p with engine := m.engine } now quote current
          exact ⟨m.engine, link, hrecord, hfailure, Or.inr htick⟩
    · simp only [hsubscribed]
      exact hsame _ rfl
  unfold dispatch
  cases classify session payload receivedAt with
  | quote quote =>
    simp only
    split <;> exact htake quote
  | heartbeat => exact hsame _ rfl
  | sessionControl => exact hsame _ rfl
  | dropped reason => exact hsame _ rfl

/-- A payload that is dropped leaves the path as it is and closes no bar. -/
theorem dispatch_dropped {receivedAt : Timestamp} {subscribed : Registry} {session : String}
    {payload : List Char} {reason : DropReason}
    (h : (p.dispatch now receivedAt subscribed session payload).result = .dropped reason) :
    (p.dispatch now receivedAt subscribed session payload).path = p ∧
      (p.dispatch now receivedAt subscribed session payload).delivered = [] := by
  have htake : ∀ quote, (p.take now subscribed quote).result = .dropped reason →
      (p.take now subscribed quote).path = p ∧ (p.take now subscribed quote).delivered = [] := by
    intro quote
    unfold take
    simp only
    split
    · exact fun _ => ⟨rfl, rfl⟩
    · exact fun hdropped => absurd hdropped (by simp)
    · intro hdropped
      simp only at hdropped
      split at hdropped <;> exact absurd hdropped (by simp)
  unfold dispatch at h ⊢
  cases hclassify : classify session payload receivedAt with
  | quote quote =>
    simp only [hclassify] at h ⊢
    split at h <;> exact htake quote h
  | heartbeat => exact ⟨rfl, rfl⟩
  | sessionControl => exact ⟨rfl, rfl⟩
  | dropped reason => exact ⟨rfl, rfl⟩

/-! ## The default lengths of life -/

/-- **Which payloads break off a path with the default lengths of life**: quotes of subscribed
instruments that lie in the last bucket of a granularity with a fixed length, and no others as long
as the clock is five minutes from its last instant.  The path that a payload leaves, even one that
broke it off, is such a path again; and one that is dropped leaves it as it was. -/
theorem dispatch_standard {gs : List Granularity} {e : Engine} (he : e.Reachable gs)
    (link : CacheLink) (cachesBars : Bool) (now : Nat) (receivedAt : Timestamp)
    (subscribed : Registry) (session : String) (payload : List Char) :
    let p : TickPath := ⟨e, .standard link, cachesBars⟩
    let r := p.dispatch now receivedAt subscribed session payload
    (r.result = .brokenOff ↔
      ∃ quote, classify session payload receivedAt = .quote quote ∧
        subscribed.contains quote.instrument = true ∧
        ((∃ g ∈ gs, ∃ length, g.fixedSeconds = some length ∧
            8210266876800 - length ≤ quote.timestamp.seconds) ∨
          p.OutlivesClock now (Granularity.sorted gs).length)) ∧
    (now + 300 * Clock.second ≤ Clock.lastInstant →
      ¬ p.OutlivesClock now (Granularity.sorted gs).length) ∧
    (∃ e' link', r.path = ⟨e', .standard link', cachesBars⟩ ∧ e'.Reachable gs) ∧
    (∀ reason, r.result = .dropped reason → r.path = p ∧ r.delivered = []) := by
  intro p r
  refine ⟨?_, fun hclock => ?_, ?_, fun reason hdropped => dispatch_dropped hdropped⟩
  · have hgranularities : p.engine.granularities = Granularity.sorted gs := he.granularities_eq
    have houtOfTime : ∀ tick, (p.engine.addTick tick).2 = .outOfTime ↔
        ∃ g ∈ gs, ∃ length, g.fixedSeconds = some length ∧
          8210266876800 - length ≤ tick.timestamp.seconds := he.outOfTime_iff
    have hbreaks := p.dispatch_brokenOff_iff now receivedAt subscribed session payload
    rw [hgranularities] at hbreaks
    simp only [houtOfTime] at hbreaks
    exact hbreaks
  · have hquote : now + 60 * Clock.second ≤ Clock.lastInstant := by omega
    exact not_outlivesClock hquote hclock _
  · obtain ⟨e', link', hpath, -, hengine⟩ :=
      p.dispatch_continues now receivedAt subscribed session payload
    refine ⟨e', link', hpath, ?_⟩
    obtain rfl | ⟨tick, rfl⟩ := hengine
    · exact he
    · exact he.tick tick

/-- A quote of an instrument with a price of one, at a second. -/
def datedPayload (seconds : String) : List Char :=
  ("\x7b\"m\":\"qsd\",\"p\":[\"s\",\x7b\"n\":\"NASDAQ:AAPL\",\"v\":\x7b\"lp\":1,\"lp_time\":" ++
    seconds ++ "\x7d\x7d]\x7d").toList

/-- A tick of the last minute has broken off, and a day's bar was not begun; the next payload breaks
nothing off. -/
theorem dispatch_standard_afterLast : ∃ i e last, i.symbol = "AAPL" ∧
    last = (Timestamp.ofSeconds? 8210266876799).getD .epoch ∧
    e = ((Engine.new [.minute1, .day1]).addTick ⟨i, 1, none, last⟩).1.engine ∧
    ((Engine.new [.minute1, .day1]).addTick ⟨i, 1, none, last⟩).2 = .outOfTime ∧
    e.Reachable [.minute1, .day1] ∧
    (dispatch ⟨e, .standard .reliable, true⟩ 0 .epoch (Registry.empty.insert i).1 "s"
      (datedPayload "1704207600")).result ≠ .brokenOff := by
  let aapl : Instrument := ⟨"NASDAQ", "AAPL", by decide, by decide, by decide⟩
  let last : Timestamp := ⟨8210266876799, 0, by decide, by decide, by decide⟩
  let usual : Quote := ⟨aapl, ⟨1704207600, 0, by decide, by decide, by decide⟩, 1, none, none, none,
    none, none, none, none, none, none⟩
  have hreachable : Engine.Reachable [.minute1, .day1]
      ((Engine.new [.minute1, .day1]).addTick ⟨aapl, 1, none, last⟩).1.engine := .tick .new _
  have hclassify : classify "s" (datedPayload "1704207600") .epoch = .quote usual := by
    decide +kernel
  obtain ⟨hbreaks, hroom, -⟩ := dispatch_standard hreachable .reliable true 0 .epoch
    (Registry.empty.insert aapl).1 "s" (datedPayload "1704207600")
  refine ⟨aapl, _, last, rfl, rfl, rfl, by decide +kernel, hreachable, fun hresult => ?_⟩
  obtain ⟨quote, hquote, -, ⟨g, hg, length, hlength, hlate⟩ | hoverdue⟩ := hbreaks.mp hresult
  · obtain rfl := Classified.quote.inj (hclassify.symm.trans hquote)
    change 8210266876800 - (length : Int) ≤ 1704207600 at hlate
    obtain rfl | rfl : g = .minute1 ∨ g = .day1 := by simpa using hg
    · obtain rfl := Option.some.inj hlength
      exact absurd hlate (by decide)
    · exact absurd hlength (by simp [Granularity.fixedSeconds])
  · exact hroom (by decide) hoverdue

/-- **The provider can break off a path**: with a quote of the last minute, to an engine that has no
builders yet. -/
theorem dispatch_breaksOff : ∃ i e, i.symbol = "AAPL" ∧ e.Reachable [.minute1, .day1] ∧
    (dispatch ⟨e, .standard .reliable, true⟩ 0 .epoch (Registry.empty.insert i).1 "s"
      (datedPayload "8210266876799")).result = .brokenOff := by
  let aapl : Instrument := ⟨"NASDAQ", "AAPL", by decide, by decide, by decide⟩
  exact ⟨aapl, _, rfl, .new, by decide +kernel⟩

end TickPath

end CandleFeed

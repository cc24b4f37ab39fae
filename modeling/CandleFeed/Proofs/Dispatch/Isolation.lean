import CandleFeed.Proofs.Dispatch.Safety
import CandleFeed.Proofs.Storage.Expiry

/-!
# A cache that fails

A tick path takes the same course whichever of its writes to the cache fail.  A **`CacheWrite`** is
one of these writes, and **`CacheLink.writeAll`** makes them on a link, of which some calls may fail
(**`CacheLink.failed`**).

Two paths that differ in their links only are one path **`TickPath.onLink`** two links.
**`TickPath.dispatch_onLink`** says, of all links at once, what a payload does: everything but the
cache and the counts of failed writes comes out the same, and so do the writes that are attempted.
**`TickPath.dispatchAll_isolated`** says it of any number of payloads.

The paths compared have room on the clock for the entries they write (**`TickPath.HasRoom`**).
Without it a write that a failing cache refuses would have broken off the path on one that works.
-/

namespace CandleFeed

/-- A text that is to be set in a cache. -/
structure CacheWrite where
  /-- What it is, by the name under which a failure is counted. -/
  kind : String
  /-- When it is set. -/
  now : Nat
  /-- Its key. -/
  key : String
  /-- The text. -/
  value : String
  /-- How long it lives. -/
  ttl : Nat
deriving DecidableEq

namespace CacheWrite

/-- What a failure of the write is counted under. -/
def counter (w : CacheWrite) : Counter := .cacheFailures w.kind

/-- The write of a quote. -/
def ofQuote (q : QuoteCache) (now : Nat) (quote : Quote) : CacheWrite :=
  ⟨"latest_quote", now, latestKey quote.instrument, quote.toJson.render, q.quoteTtl⟩

/-- The write of a bar in progress. -/
def ofBar (q : QuoteCache) (now : Nat) (bar : OpenBar) : CacheWrite :=
  ⟨"current_bar", now, currentKey bar.instrument bar.granularity, bar.toJson.render, q.barTtl⟩

/-- The entry would expire no later than the clock ends. -/
def HasRoom (w : CacheWrite) : Prop := w.now + w.ttl ≤ Clock.lastInstant

end CacheWrite

/-- A failed write is counted. -/
def Counter.isCacheFailure : Counter → Bool
  | cacheFailures _ => true
  | _ => false

@[simp] theorem CacheWrite.isCacheFailure_counter (w : CacheWrite) :
    w.counter.isCacheFailure = true := rfl

/-! ## Writes on a link -/

namespace CacheLink

/-- Attempts a write. -/
def write (l : CacheLink) (w : CacheWrite) : CacheLink :=
  (l.set w.now w.key w.value (some w.ttl)).1

/-- Attempts writes one after another. -/
def writeAll (l : CacheLink) (ws : List CacheWrite) : CacheLink := ws.foldl write l

/-- A write is answered with a fault. -/
def fails (l : CacheLink) (w : CacheWrite) : Bool :=
  match (l.set w.now w.key w.value (some w.ttl)).2 with
  | .ok () => false
  | .error _ => true

/-- Those of the writes, attempted one after another, that fail. -/
def failed (l : CacheLink) : List CacheWrite → List CacheWrite
  | [] => []
  | w :: ws => if l.fails w then w :: (l.write w).failed ws else (l.write w).failed ws

theorem writeAll_append (l : CacheLink) (ws ws' : List CacheWrite) :
    l.writeAll (ws ++ ws') = (l.writeAll ws).writeAll ws' := List.foldl_append

theorem failed_append (l : CacheLink) (ws ws' : List CacheWrite) :
    l.failed (ws ++ ws') = l.failed ws ++ (l.writeAll ws).failed ws' := by
  induction ws generalizing l with
  | nil => rfl
  | cons w ws ih =>
    have hrest : (l.write w).failed (ws ++ ws') =
        (l.write w).failed ws ++ (l.writeAll (w :: ws)).failed ws' := ih (l.write w)
    simp only [List.cons_append, failed, hrest]
    split <;> rfl

theorem failed_cons (l : CacheLink) (w : CacheWrite) (ws : List CacheWrite) :
    l.failed (w :: ws) = l.failed [w] ++ (l.write w).failed ws := l.failed_append [w] ws

/-- A write leaves the calls that fail as they are. -/
theorem write_failure (l : CacheLink) (w : CacheWrite) : (l.write w).failure = l.failure :=
  l.set_failure w.now w.key w.value (some w.ttl)

/-- Writes leave the calls that fail as they are. -/
theorem writeAll_failure (l : CacheLink) (ws : List CacheWrite) :
    (l.writeAll ws).failure = l.failure := by
  induction ws generalizing l with
  | nil => rfl
  | cons w ws ih => exact (ih (l.write w)).trans (l.write_failure w)

/-- Every write counts as a call. -/
theorem writeAll_calls (l : CacheLink) (ws : List CacheWrite) :
    (l.writeAll ws).calls = l.calls + ws.length := by
  induction ws generalizing l with
  | nil => rfl
  | cons w ws ih =>
    have hfirst : (l.write w).calls = l.calls + 1 := l.set_calls w.now w.key w.value (some w.ttl)
    have hrest : (l.writeAll (w :: ws)).calls = (l.write w).calls + ws.length := ih (l.write w)
    rw [hrest, hfirst, List.length_cons]
    omega

/-- A write that has room fails exactly if the call does. -/
theorem fails_iff (l : CacheLink) {w : CacheWrite} (hroom : w.HasRoom) :
    l.fails w = true ↔ l.failure l.calls ≠ none := by
  unfold fails set call
  cases l.failure l.calls with
  | some reason => simp
  | none =>
    simp [l.cache.set_some_eq hroom]

/-- After a write, a cache that never fails is one still. -/
theorem NeverFails.after_write {l : CacheLink} (h : l.NeverFails) (w : CacheWrite) :
    (l.write w).NeverFails :=
  fun n => (congrFun (l.write_failure w) n).trans (h n)

/-- On a cache that never fails no write that has room does. -/
theorem NeverFails.failed_eq_nil {l : CacheLink} (h : l.NeverFails) {ws : List CacheWrite}
    (hroom : ∀ w ∈ ws, w.HasRoom) : l.failed ws = [] := by
  induction ws generalizing l with
  | nil => rfl
  | cons w ws ih =>
    obtain ⟨hw, hws⟩ := List.forall_mem_cons.mp hroom
    have hmade : l.fails w ≠ true := fun hfails => (l.fails_iff hw).mp hfails (h l.calls)
    rw [failed, if_neg hmade]
    exact ih (h.after_write w) hws

/-- A write that does not fail has stored its text. -/
theorem get?_write {l : CacheLink} {w : CacheWrite} (hroom : w.HasRoom) (h : l.fails w = false) :
    (l.write w).cache.entries.get? w.key = some ⟨w.value, some (w.now + w.ttl)⟩ := by
  have hmade : l.failure l.calls = none := by
    by_contra hfault
    exact absurd ((l.fails_iff hroom).mpr hfault) (by rw [h]; exact Bool.false_ne_true)
  simp only [write, set, call, hmade, l.cache.set_some_eq hroom, Table.get?_insert, if_true]

end CacheLink

namespace TickPath

/-! ## One path on several links -/

/-- The path on another link to a cache. -/
def onLink (p : TickPath) (l : CacheLink) : TickPath :=
  { p with quotes := { p.quotes with link := l } }

/-- The entries that the path writes would expire no later than the clock ends. -/
def HasRoom (p : TickPath) (now : Nat) : Prop :=
  now + p.quotes.quoteTtl ≤ Clock.lastInstant ∧
    (p.cachesBars = true → now + p.quotes.barTtl ≤ Clock.lastInstant)

/-- What recording a quote writes. -/
def recordWrites (p : TickPath) (now : Nat) (quote : Quote) (current : List OpenBar) :
    List CacheWrite :=
  .ofQuote p.quotes now quote :: if p.cachesBars then current.map (.ofBar p.quotes now) else []

/-- A write that has room goes on, and is counted if it fails. -/
theorem noteWrite_eq (p : TickPath) {w : CacheWrite} (hroom : w.HasRoom) :
    p.noteWrite w.kind
        ({ p.quotes with link := (p.quotes.link.set w.now w.key w.value (some w.ttl)).1 },
          (p.quotes.link.set w.now w.key w.value (some w.ttl)).2) =
      ⟨p.onLink (p.quotes.link.write w), [], (p.quotes.link.failed [w]).map (·.counter), true⟩ := by
  have hintime : (p.quotes.link.set w.now w.key w.value (some w.ttl)).2 ≠ .error .outOfTime := by
    intro hlate
    obtain ⟨-, hlate⟩ := (p.quotes.link.set_outOfTime_iff w.now w.key w.value w.ttl).mp hlate
    exact absurd hlate (Nat.not_lt.mpr hroom)
  cases hresult : (p.quotes.link.set w.now w.key w.value (some w.ttl)).2 with
  | ok u =>
    simp only [noteWrite, CacheLink.failed, CacheLink.fails, Bool.false_eq_true, hresult, if_false]
    rfl
  | error fault =>
    simp only [CacheLink.failed, CacheLink.fails, hresult, if_true]
    cases fault with
    | outOfTime => exact absurd hresult hintime
    | encoding => rfl
    | operationFailed reason => rfl

/-- Writing bars in progress goes on, and what fails is counted. -/
theorem recordBars_eq (p : TickPath) {now : Nat}
    (hroom : now + p.quotes.barTtl ≤ Clock.lastInstant) (bars : List OpenBar) :
    p.recordBars now bars =
      ⟨p.onLink (p.quotes.link.writeAll (bars.map (.ofBar p.quotes now))), [],
        (p.quotes.link.failed (bars.map (.ofBar p.quotes now))).map (·.counter), true⟩ := by
  induction bars generalizing p with
  | nil => rfl
  | cons bar bars ih =>
    have hfirst : p.recordBar now bar =
        ⟨p.onLink (p.quotes.link.write (.ofBar p.quotes now bar)), [],
          (p.quotes.link.failed [.ofBar p.quotes now bar]).map (·.counter), true⟩ :=
      p.noteWrite_eq (w := .ofBar p.quotes now bar) hroom
    have hrest := ih (p.onLink (p.quotes.link.write (.ofBar p.quotes now bar))) hroom
    simp only [recordBars, hfirst, if_true]
    rw [hrest, List.map_cons, CacheLink.failed_cons _ _ (bars.map _), List.map_append]
    rfl

/-- **Recording goes on, and what fails is counted.** -/
theorem record_eq (p : TickPath) {now : Nat} (hroom : p.HasRoom now) (quote : Quote)
    (current : List OpenBar) :
    p.record now quote current =
      ⟨p.onLink (p.quotes.link.writeAll (p.recordWrites now quote current)), [],
        (p.quotes.link.failed (p.recordWrites now quote current)).map (·.counter), true⟩ := by
  have hfirst : p.recordQuote now quote =
      ⟨p.onLink (p.quotes.link.write (.ofQuote p.quotes now quote)), [],
        (p.quotes.link.failed [.ofQuote p.quotes now quote]).map (·.counter), true⟩ :=
    p.noteWrite_eq (w := .ofQuote p.quotes now quote) hroom.1
  unfold record recordWrites
  simp only [hfirst, Bool.true_and]
  cases hbars : p.cachesBars with
  | false => simp only [Bool.false_eq_true, if_false]; rfl
  | true =>
    have hrest := recordBars_eq (p.onLink (p.quotes.link.write (.ofQuote p.quotes now quote)))
      (hroom.2 hbars) current
    simp only [if_true]
    rw [hrest, CacheLink.failed_cons _ _ (current.map _), List.map_append]
    rfl

/-! ## Payloads -/

/-- What a payload comes to, the cache and the counts of failed writes apart. -/
structure Course where
  /-- What became of it. -/
  result : Dispatched
  /-- The bars under construction. -/
  engine : Engine
  /-- The bars that were delivered. -/
  delivered : List ClosedBar
  /-- Everything else that was counted. -/
  counted : List Counter

/-- The course that a step took. -/
def course (r : PathStep Dispatched) : Course :=
  ⟨r.result, r.path.engine, r.delivered, r.counted.filter (!·.isCacheFailure)⟩

/-- The failed writes that a step counted. -/
def cacheFailures (r : PathStep Dispatched) : List Counter :=
  r.counted.filter (·.isCacheFailure)

/-- A step on a link: its course, and the writes that it attempts. -/
structure StepsOn (p : TickPath) (c : Course) (writes : List CacheWrite) (l : CacheLink)
    (r : PathStep Dispatched) : Prop where
  path : r.path = { p with engine := c.engine }.onLink (l.writeAll writes)
  course : course r = c
  failures : cacheFailures r = (l.failed writes).map (·.counter)

/-- Failed writes are all that is counted of failed writes. -/
theorem filter_counters (ws : List CacheWrite) :
    (ws.map (·.counter)).filter (·.isCacheFailure) = ws.map (·.counter) ∧
      (ws.map (·.counter)).filter (!·.isCacheFailure) = [] := by
  constructor
  · rw [List.filter_eq_self]
    intro c hc
    obtain ⟨w, -, rfl⟩ := List.mem_map.mp hc
    exact w.isCacheFailure_counter
  · rw [List.filter_eq_nil_iff]
    intro c hc
    obtain ⟨w, -, rfl⟩ := List.mem_map.mp hc
    rw [w.isCacheFailure_counter]
    exact Bool.noConfusion

/-- A step that writes nothing. -/
theorem stepsOn_nothing (p : TickPath) (l : CacheLink) (e : Engine) (delivered : List ClosedBar)
    (counted : List Counter) (hcounted : ∀ c ∈ counted, c.isCacheFailure = false)
    (result : Dispatched) :
    p.StepsOn ⟨result, e, delivered, counted⟩ [] l
      ⟨{ p with engine := e }.onLink l, delivered, counted, result⟩ := by
  refine ⟨rfl, ?_, ?_⟩
  · have hall : counted.filter (!·.isCacheFailure) = counted :=
      List.filter_eq_self.mpr fun c hc => by rw [hcounted c hc]; rfl
    simp only [course, hall]
    rfl
  · exact List.filter_eq_nil_iff.mpr fun c hc => by rw [hcounted c hc]; exact Bool.noConfusion

/-- A step that writes, and counts what fails after the rest. -/
theorem stepsOn_writes (p : TickPath) (l : CacheLink) (e : Engine) (delivered : List ClosedBar)
    {counter : Counter} (hcounter : counter.isCacheFailure = false) (writes : List CacheWrite)
    (result : Dispatched) :
    p.StepsOn ⟨result, e, delivered, [counter]⟩ writes l
      ⟨{ p with engine := e }.onLink (l.writeAll writes), delivered,
        counter :: (l.failed writes).map (·.counter), result⟩ := by
  obtain ⟨hfailures, hothers⟩ := filter_counters (l.failed writes)
  refine ⟨rfl, ?_, ?_⟩
  · unfold course
    rw [List.filter_cons_of_pos (by rw [hcounter]; rfl), hothers]
    rfl
  · unfold cacheFailures
    rw [List.filter_cons_of_neg (by rw [hcounter]; exact Bool.noConfusion), hfailures]

/-- A quote whose tick is applied is recorded. -/
theorem take_of_applied {p : TickPath} {now : Nat} (hroom : p.HasRoom now) {subscribed : Registry}
    {quote : Quote} (hsubscribed : subscribed.contains quote.instrument = true) {m : Emission}
    {rolled : Nat} {current : List OpenBar}
    (hadd : p.engine.addTick quote.tick = (m, .applied rolled current)) :
    p.take now subscribed quote =
      ⟨{ p with engine := m.engine }.onLink
          (p.quotes.link.writeAll (p.recordWrites now quote current)), m.delivered,
        .ticks quote.instrument.exchange ::
          (p.quotes.link.failed (p.recordWrites now quote current)).map (·.counter),
        .tick quote⟩ := by
  have hrecord : record { p with engine := m.engine } now quote current = _ :=
    record_eq { p with engine := m.engine } hroom quote current
  simp only [take, accept, hsubscribed, if_true, hadd, hrecord]
  rfl

/-- The writes that record a quote have room on a path that has. -/
theorem hasRoom_of_mem_recordWrites {p : TickPath} {now : Nat} (hroom : p.HasRoom now)
    {quote : Quote} {current : List OpenBar} {w : CacheWrite}
    (hw : w ∈ p.recordWrites now quote current) : w.HasRoom := by
  unfold recordWrites at hw
  obtain rfl | hw := List.mem_cons.mp hw
  · exact hroom.1
  · split at hw
    · rename_i hbars
      obtain ⟨bar, -, rfl⟩ := List.mem_map.mp hw
      exact hroom.2 hbars
    · exact absurd hw List.not_mem_nil

/-- **A payload takes one course on all links, and attempts the same writes on each.** -/
theorem dispatch_onLink (p : TickPath) {now : Nat} (hroom : p.HasRoom now) (receivedAt : Timestamp)
    (subscribed : Registry) (session : String) (payload : List Char) :
    ∃ c writes, (∀ w ∈ writes, w.HasRoom) ∧
      ∀ l, p.StepsOn c writes l
        ((p.onLink l).dispatch now receivedAt subscribed session payload) := by
  unfold dispatch
  cases classify session payload receivedAt with
  | quote quote =>
    by_cases hsubscribed : subscribed.contains quote.instrument = true
    · cases hadd : p.engine.addTick quote.tick with
      | mk m outcome =>
        cases outcome with
        | outOfTime =>
          have htake : ∀ l, (p.onLink l).take now subscribed quote =
              ⟨{ p with engine := m.engine }.onLink l, m.delivered, [], .brokenOff⟩ := by
            intro l
            have haddOn : (p.onLink l).engine.addTick quote.tick = (m, .outOfTime) := hadd
            simp only [take, accept, hsubscribed, if_true, haddOn]
            rfl
          simp only [htake]
          exact ⟨_, [], by simp, fun l => p.stepsOn_nothing l m.engine m.delivered [] (by simp)
            .brokenOff⟩
        | applied rolled current =>
          have htake := fun l => take_of_applied (p := p.onLink l) hroom hsubscribed hadd
          simp only [htake]
          exact ⟨_, p.recordWrites now quote current,
            fun w hw => hasRoom_of_mem_recordWrites hroom hw,
            fun l => p.stepsOn_writes l m.engine m.delivered rfl _ (.tick quote)⟩
    · have htake : ∀ l, (p.onLink l).take now subscribed quote =
          ⟨p.onLink l, [], [], .dropped .unsubscribed⟩ := by
        intro l
        simp only [take, accept, hsubscribed]
        rfl
      simp only [htake]
      exact ⟨_, [], by simp, fun l => p.stepsOn_nothing l p.engine []
        [.dropped DropReason.unsubscribed.name] (by simp [Counter.isCacheFailure])
        (.dropped .unsubscribed)⟩
  | heartbeat =>
    exact ⟨_, [], by simp, fun l => p.stepsOn_nothing l p.engine [] [] (by simp) .heartbeat⟩
  | sessionControl =>
    exact ⟨_, [], by simp, fun l =>
      p.stepsOn_nothing l p.engine [] [] (by simp) .sessionControl⟩
  | dropped reason =>
    exact ⟨_, [], by simp, fun l => p.stepsOn_nothing l p.engine [] [.dropped reason.name]
      (by simp [Counter.isCacheFailure]) (.dropped reason)⟩

/-! ## Any number of payloads -/

/-- A payload that arrives: when, on which session, and what is subscribed then. -/
structure Arrival where
  /-- The time of the clock. -/
  now : Nat
  /-- The time that a quote has that comes without one. -/
  receivedAt : Timestamp
  /-- What is subscribed. -/
  subscribed : Registry
  /-- The session. -/
  session : String
  /-- The text. -/
  payload : List Char

/-- Takes a payload that arrives. -/
def dispatchArrival (p : TickPath) (a : Arrival) : PathStep Dispatched :=
  p.dispatch a.now a.receivedAt a.subscribed a.session a.payload

/-- Takes payloads one after another; a step for each. -/
def dispatchAll (p : TickPath) : List Arrival → List (PathStep Dispatched)
  | [] => []
  | a :: rest => p.dispatchArrival a :: (p.dispatchArrival a).path.dispatchAll rest

/-- The path after payloads. -/
def after (p : TickPath) (arrivals : List Arrival) : TickPath :=
  arrivals.foldl (fun p a => (p.dispatchArrival a).path) p

/-- **Payloads take one course on all links, and attempt the same writes on each.** -/
theorem dispatchAll_onLink (p : TickPath) {arrivals : List Arrival}
    (hroom : ∀ a ∈ arrivals, p.HasRoom a.now) :
    ∃ courses writes, (∀ w ∈ writes, w.HasRoom) ∧ ∀ l,
      ((p.onLink l).dispatchAll arrivals).map course = courses ∧
        ((p.onLink l).dispatchAll arrivals).flatMap cacheFailures =
          (l.failed writes).map (·.counter) ∧
        ((p.onLink l).after arrivals).quotes.link = l.writeAll writes := by
  induction arrivals generalizing p with
  | nil => exact ⟨[], [], by simp, fun l => ⟨rfl, rfl, rfl⟩⟩
  | cons a rest ih =>
    obtain ⟨hfirst, hrest⟩ := List.forall_mem_cons.mp hroom
    obtain ⟨c, ws, hws, hstep⟩ :=
      p.dispatch_onLink hfirst a.receivedAt a.subscribed a.session a.payload
    obtain ⟨courses, ws', hws', hrun⟩ := ih { p with engine := c.engine } hrest
    refine ⟨c :: courses, ws ++ ws', ?_, fun l => ?_⟩
    · intro w hw
      exact (List.mem_append.mp hw).elim (hws w) (hws' w)
    · obtain ⟨hcourses, hlater, hlink⟩ := hrun (l.writeAll ws)
      have hpath : ((p.onLink l).dispatchArrival a).path =
          { p with engine := c.engine }.onLink (l.writeAll ws) := (hstep l).path
      have hcourse : course ((p.onLink l).dispatchArrival a) = c := (hstep l).course
      have hfailures : cacheFailures ((p.onLink l).dispatchArrival a) =
          (l.failed ws).map (·.counter) := (hstep l).failures
      refine ⟨?_, ?_, ?_⟩
      · rw [dispatchAll, List.map_cons, hcourse, hpath, hcourses]
      · rw [dispatchAll, List.flatMap_cons, hfailures, hpath, hlater, CacheLink.failed_append,
          List.map_append]
      · rw [CacheLink.writeAll_append, ← hlink, ← hpath]
        rfl

/-- The path on the same cache, of which other calls fail. -/
def withFailures (p : TickPath) (failure : Nat → Option String) : TickPath :=
  p.onLink { p.quotes.link with failure }

/-- **The failures of a cache are isolated.**  Next to a path whose cache never fails, one on the
same cache of which any calls fail takes the same course with every payload: outcomes, engine,
delivered bars and everything counted but failed writes.  Both attempt the same writes, of which
each that fails is counted, and each that does not stores what it stores on the other path. -/
theorem dispatchAll_isolated {p : TickPath} (hnever : p.quotes.link.NeverFails)
    (failure : Nat → Option String) {arrivals : List Arrival}
    (hroom : ∀ a ∈ arrivals, p.HasRoom a.now) :
    let q := p.withFailures failure
    (q.dispatchAll arrivals).map course = (p.dispatchAll arrivals).map course ∧
      (p.dispatchAll arrivals).flatMap cacheFailures = [] ∧
      ∃ writes : List CacheWrite,
        (p.after arrivals).quotes.link = p.quotes.link.writeAll writes ∧
        (q.after arrivals).quotes.link = q.quotes.link.writeAll writes ∧
        (q.dispatchAll arrivals).flatMap cacheFailures =
          (q.quotes.link.failed writes).map (·.counter) ∧
        ∀ earlier w later, writes = earlier ++ w :: later →
          let l := p.quotes.link.writeAll earlier
          let l' := q.quotes.link.writeAll earlier
          (l'.fails w = true ↔ failure (p.quotes.link.calls + earlier.length) ≠ none) ∧
            (l'.fails w = false →
              (l'.write w).cache.entries.get? w.key = some ⟨w.value, some (w.now + w.ttl)⟩ ∧
              (l.write w).cache.entries.get? w.key = some ⟨w.value, some (w.now + w.ttl)⟩) := by
  intro q
  obtain ⟨courses, writes, hwrites, hrun⟩ := p.dispatchAll_onLink hroom
  obtain ⟨hcourses, hfailures, hlink⟩ := hrun p.quotes.link
  obtain ⟨hcourses', hfailures', hlink'⟩ := hrun q.quotes.link
  refine ⟨hcourses'.trans hcourses.symm, ?_, writes, hlink, hlink', hfailures', ?_⟩
  · exact hfailures.trans (congrArg _ (hnever.failed_eq_nil hwrites))
  · rintro earlier w later rfl l l'
    have hw : w.HasRoom := hwrites w (by simp)
    have hmade : l.fails w = false := by
      refine Bool.not_eq_true _ ▸ fun hfails => (l.fails_iff hw).mp hfails ?_
      exact (congrFun (p.quotes.link.writeAll_failure earlier) _).trans (hnever _)
    refine ⟨?_, fun hmade' => ⟨CacheLink.get?_write hw hmade', CacheLink.get?_write hw hmade⟩⟩
    rw [l'.fails_iff hw]
    change (q.quotes.link.writeAll earlier).failure
      (q.quotes.link.writeAll earlier).calls ≠ none ↔ _
    rw [CacheLink.writeAll_failure, CacheLink.writeAll_calls]
    rfl

/-- Two ticks, each with a quote and two bars to write, on a cache of which every second call
fails. -/
theorem dispatchAll_isolated_everySecond : ∃ (i : Instrument) (p : TickPath)
    (failure : Nat → Option String) (arrivals : List Arrival),
    i.symbol = "AAPL" ∧ p.quotes.link.NeverFails ∧ (∀ a ∈ arrivals, p.HasRoom a.now) ∧
      ((p.withFailures failure).dispatchAll arrivals).flatMap cacheFailures =
        [.cacheFailures "latest_quote", .cacheFailures "current_bar",
          .cacheFailures "current_bar"] ∧
      ((p.withFailures failure).dispatchAll arrivals).map course =
        (p.dispatchAll arrivals).map course := by
  let aapl : Instrument := ⟨"NASDAQ", "AAPL", by decide, by decide, by decide⟩
  let p : TickPath := ⟨.new [.minute1, .day1], .standard .reliable, true⟩
  let failure : Nat → Option String := fun n => if n % 2 = 0 then some "down" else none
  let arrival (seconds : String) : Arrival :=
    ⟨0, .epoch, (Registry.empty.insert aapl).1, "s", datedPayload seconds⟩
  let arrivals := [arrival "1704207600", arrival "1704207660"]
  have hnever : p.quotes.link.NeverFails := fun _ => rfl
  have hroom : ∀ a ∈ arrivals, p.HasRoom a.now := by
    intro a ha
    obtain rfl | rfl : a = arrival "1704207600" ∨ a = arrival "1704207660" := by
      simpa [arrivals] using ha
    all_goals exact ⟨by decide, fun _ => by decide⟩
  obtain ⟨hcourse, -⟩ := dispatchAll_isolated hnever failure hroom
  exact ⟨aapl, p, failure, arrivals, rfl, hnever, hroom, by decide +kernel, hcourse⟩

end TickPath

end CandleFeed

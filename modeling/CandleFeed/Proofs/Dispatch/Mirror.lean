import CandleFeed.Proofs.Aggregation.InProgress
import CandleFeed.Proofs.Dispatch.Isolation
import CandleFeed.Proofs.Storage.Slots

/-!
# What the cache shows of the engine

After a tick the cache has, on a link that never fails, the texts of the tick's quote and of the bar
in progress of each granularity (`get?_dispatch`), whatever came before.  So it shows of each what
the text reads back to: **`TickPath.dispatch_mirrors`** says when this is what the engine has.

It is not always so.  The volume of a bar is the sum of any number of ticks and may be too large
for a number; it is then written as null, which is read as no bar (`dispatch_mirrors_overflow`).
And a value that needs seventeen digits may come back as its neighbour.
-/

namespace CandleFeed

/-! ## Instruments of quotes -/

/-- The instrument of a quote was built from two parts. -/
theorem QuoteUpdate.canonical_of_quote? {u : QuoteUpdate} {receivedAt : Timestamp} {quote : Quote}
    (h : u.quote? receivedAt = some quote) : quote.instrument.Canonical := by
  unfold quote? at h
  simp only [Option.bind_eq_bind, Option.bind_eq_some_iff] at h
  obtain ⟨lastPrice, -, i, hparse, hquote⟩ := h
  obtain rfl := Option.some.inj hquote
  cases hresult : Instrument.parse u.name with
  | error fault =>
    rw [hresult] at hparse
    exact absurd hparse (by simp [Except.toOption])
  | ok j =>
    rw [hresult] at hparse
    obtain rfl := Option.some.inj hparse
    exact Instrument.canonical_of_parse hresult

/-- So was the instrument of a payload that is a quote. -/
theorem TickPath.canonical_of_classify {session : String} {payload : List Char}
    {receivedAt : Timestamp} {quote : Quote}
    (h : classify session payload receivedAt = .quote quote) : quote.instrument.Canonical := by
  unfold classify at h
  split at h
  iterate 6 exact absurd h (by simp)
  split at h
  · exact absurd h (by simp)
  · split at h
    · rename_i quote' hquote
      obtain rfl := Classified.quote.inj h
      exact QuoteUpdate.canonical_of_quote? hquote
    · exact absurd h (by simp)

/-! ## Writes that are found again -/

namespace CacheLink

variable {l : CacheLink} {t : Nat}

/-- A write changes nothing that is found later under another key. -/
theorem get?_write_of_ne (l : CacheLink) {w : CacheWrite} (hnow : w.now ≤ t) {key : String}
    (hne : w.key ≠ key) : (l.write w).cache.get? t key = l.cache.get? t key :=
  l.get?_set_of_ne hnow hne w.value (some w.ttl)

/-- Nor do several writes. -/
theorem get?_writeAll_of_ne (l : CacheLink) {ws : List CacheWrite} {key : String}
    (hws : ∀ w ∈ ws, w.now ≤ t ∧ w.key ≠ key) :
    (l.writeAll ws).cache.get? t key = l.cache.get? t key := by
  induction ws generalizing l with
  | nil => rfl
  | cons w ws ih =>
    obtain ⟨⟨hnow, hne⟩, hrest⟩ := List.forall_mem_cons.mp hws
    exact (ih (l.write w) hrest).trans (l.get?_write_of_ne hnow hne)

/-- **What is written under different keys is found under each**, until its time is over. -/
theorem NeverFails.get?_writeAll (h : l.NeverFails) {ws : List CacheWrite}
    (hws : ∀ w ∈ ws, w.now ≤ t ∧ Clock.Pending w.now w.ttl t)
    (hkeys : ws.Pairwise fun w w' => w.key ≠ w'.key) :
    ∀ w ∈ ws, (l.writeAll ws).cache.get? t w.key = some w.value := by
  induction ws generalizing l with
  | nil => exact nofun
  | cons w ws ih =>
    obtain ⟨⟨hnow, hpending⟩, hrest⟩ := List.forall_mem_cons.mp hws
    obtain ⟨hne, hkeys'⟩ := List.pairwise_cons.mp hkeys
    refine List.forall_mem_cons.mpr ⟨?_, ih (h.after_write w) hrest hkeys'⟩
    have hothers : ∀ w' ∈ ws, w'.now ≤ t ∧ w'.key ≠ w.key :=
      fun w' hw' => ⟨(hrest w' hw').1, (hne w' hw').symm⟩
    have hlater := (l.write w).get?_writeAll_of_ne hothers
    refine hlater.trans ?_
    simp only [write, set, h.call_eq]
    exact (l.cache.get?_set hpending w.key w.value).2

end CacheLink

namespace QuoteCache

/-- **What a cache shows of a JSON form** that it has the text of: what its echo is read as. -/
theorem fetch_render {α : Type} {q : QuoteCache} (hnever : q.link.NeverFails) {t : Nat}
    {key : String} {v : Json} (hget : q.link.cache.get? t key = some v.render)
    (ofJson? : Json → Option α) :
    (q.fetch t key ofJson?).2 =
      match ofJson? v.echo with
      | some record => .ok (some record)
      | none => .error .encoding := by
  have hlink : (q.link.get? t key).2 = .ok (some v.render) := by
    rw [CacheLink.get?, hnever.call_eq, hget]
  have hread : (Json.read v.render).bind ofJson? = ofJson? v.echo := by
    rw [Json.read_render_echo, Option.bind_some]
  cases hecho : ofJson? v.echo with
  | none => simp only [fetch, hlink, hread, hecho]
  | some record => simp only [fetch, hlink, hread, hecho]

end QuoteCache

namespace TickPath

variable {p : TickPath}

/-! ## What a payload leaves -/

/-- A payload whose tick is taken is a quote of a subscribed instrument, and has been applied. -/
theorem dispatch_tick {now : Nat} {receivedAt : Timestamp} {subscribed : Registry}
    {session : String} {payload : List Char} {quote : Quote} (hroom : p.HasRoom now)
    (h : (p.dispatch now receivedAt subscribed session payload).result = .tick quote) :
    classify session payload receivedAt = .quote quote ∧ ∃ m rolled current,
      p.engine.addTick quote.tick = (m, .applied rolled current) ∧
        (p.dispatch now receivedAt subscribed session payload).path =
          { p with engine := m.engine }.onLink
            (p.quotes.link.writeAll (p.recordWrites now quote current)) := by
  unfold dispatch at h ⊢
  cases hclassify : classify session payload receivedAt with
  | quote quote' =>
    rw [hclassify] at h
    simp only at h ⊢
    by_cases hsubscribed : subscribed.contains quote'.instrument = true
    · cases hadd : p.engine.addTick quote'.tick with
      | mk m outcome =>
        cases outcome with
        | outOfTime =>
          simp only [take, accept, hsubscribed, if_true, hadd] at h
          exact absurd h (by simp)
        | applied rolled current =>
          have htake := take_of_applied hroom hsubscribed hadd
          rw [htake] at h ⊢
          obtain rfl := Dispatched.tick.inj h
          exact ⟨rfl, m, rolled, current, hadd, rfl⟩
    · simp only [take, accept, hsubscribed] at h
      exact absurd h (by simp)
  | heartbeat =>
    rw [hclassify] at h
    exact absurd h (by simp)
  | sessionControl =>
    rw [hclassify] at h
    exact absurd h (by simp)
  | dropped reason =>
    rw [hclassify] at h
    exact absurd h (by simp)

/-- What is recorded of a tick has different keys. -/
theorem recordWrites_pairwise (p : TickPath) (now : Nat) (quote : Quote) {current : List OpenBar}
    (hcurrent : current.Pairwise fun a b => a.granularity ≠ b.granularity) :
    (p.recordWrites now quote current).Pairwise fun w w' => w.key ≠ w'.key := by
  unfold recordWrites
  refine List.pairwise_cons.mpr ⟨fun w hw => ?_, ?_⟩
  · split at hw
    · obtain ⟨bar, -, rfl⟩ := List.mem_map.mp hw
      exact latestKey_ne_currentKey _ _ _
    · exact absurd hw List.not_mem_nil
  · split
    · rw [List.pairwise_map]
      refine hcurrent.imp_of_mem fun ha hb hne hkey => hne ?_
      change currentKey _ _ = currentKey _ _ at hkey
      exact (currentKey_injective hkey).2
    · exact List.Pairwise.nil

/-! ## Paths that write all there is -/

/-- A path that writes bars in progress too, to a cache that never fails. -/
structure WritesAll (gs : List Granularity) (p : TickPath) : Prop where
  reachable : p.engine.Reachable gs
  cachesBars : p.cachesBars = true
  neverFails : p.quotes.link.NeverFails

variable {gs : List Granularity}

/-- A payload leaves such a path, and entries live as long as before. -/
theorem WritesAll.of_continues {q : TickPath} (h : p.WritesAll gs) (hq : p.Continues q) :
    q.WritesAll gs ∧ q.quotes.quoteTtl = p.quotes.quoteTtl ∧
      q.quotes.barTtl = p.quotes.barTtl := by
  obtain ⟨e, link, rfl, hfailure, hengine⟩ := hq
  refine ⟨⟨?_, h.cachesBars, fun n => (congrFun hfailure n).trans (h.neverFails n)⟩, rfl, rfl⟩
  obtain rfl | ⟨tick, rfl⟩ := hengine
  · exact h.reachable
  · exact h.reachable.tick tick

/-- So do any number of payloads. -/
theorem WritesAll.after (h : p.WritesAll gs) (arrivals : List Arrival) :
    (p.after arrivals).WritesAll gs ∧
      (p.after arrivals).quotes.quoteTtl = p.quotes.quoteTtl ∧
      (p.after arrivals).quotes.barTtl = p.quotes.barTtl := by
  induction arrivals generalizing p with
  | nil => exact ⟨h, rfl, rfl⟩
  | cons a arrivals ih =>
    obtain ⟨hfirst, hquotes, hbars⟩ := h.of_continues
      (p.dispatch_continues a.now a.receivedAt a.subscribed a.session a.payload)
    obtain ⟨hrest, hquotes', hbars'⟩ := ih hfirst
    exact ⟨hrest, hquotes'.trans hquotes, hbars'.trans hbars⟩

/-! ## What the cache shows -/

/-- What a cache shows of a bar in progress at an instant: the bar, exactly if its text reads back,
and a fault if one of its values is no finite number. -/
def ShowsBar (q : QuoteCache) (t : Nat) (i : Instrument) (g : Granularity) (bar : OpenBar) : Prop :=
  ((q.current t i g).2 = .ok (some bar) ↔ bar.ohlcv.Regular ∧ bar.tickCount < Nat.pow 2 64) ∧
    (¬ bar.ohlcv.Finite → (q.current t i g).2 = .error .encoding)

/-- This is what it shows of a bar after a tick, of which it has the text. -/
theorem showsBar_of_get? {q : QuoteCache} (hnever : q.link.NeverFails) {t : Nat} {e : Engine}
    {tick : Tick} {g : Granularity} {bar : OpenBar} (hbar : e.HasBar tick g bar)
    (hinstrument : tick.instrument.Canonical)
    (hget : q.link.cache.get? t (currentKey bar.instrument bar.granularity) =
      some bar.toJson.render) : ShowsBar q t tick.instrument g bar := by
  have hcanonical : bar.instrument.Canonical := hbar.instrument ▸ hinstrument
  have hstart : bar.bucketStart.nanos < nanosPerSecond := by rw [hbar.bucketStart]; decide
  have hend : bar.bucketEnd.nanos < nanosPerSecond := by rw [hbar.bucketEnd]; decide
  rw [hbar.instrument, hbar.granularity] at hget
  unfold ShowsBar
  rw [QuoteCache.current, QuoteCache.fetch_render hnever hget,
    ← OpenBar.ofJson?_echo_iff hcanonical hstart hend]
  refine ⟨?_, fun hinfinite => ?_⟩
  · cases OpenBar.ofJson? bar.toJson.echo <;> simp
  · rw [OpenBar.ofJson?_echo_eq_none hcanonical hstart hend hinfinite]

/-- It shows a latest quote, of which it has the text, exactly if the text reads back. -/
theorem latest_iff_of_get? {q : QuoteCache} (hnever : q.link.NeverFails) {t : Nat} {quote : Quote}
    (hinstrument : quote.instrument.Canonical)
    (hget : q.link.cache.get? t (latestKey quote.instrument) = some quote.toJson.render) :
    (q.latest t quote.instrument).2 = .ok (some quote) ↔ quote.ReadsBack := by
  rw [QuoteCache.latest, QuoteCache.fetch_render hnever hget, ← Quote.ofJson?_echo_iff hinstrument]
  cases Quote.ofJson? quote.toJson.echo <;> simp

/-- **What the cache has after a tick**: the texts of its quote, and of the bar in progress that the
engine has for each granularity. -/
theorem get?_dispatch (hp : p.WritesAll gs) {a : Arrival} {quote : Quote} {t : Nat}
    (hnow : a.now ≤ t) (hquotes : Clock.Pending a.now p.quotes.quoteTtl t)
    (hbars : Clock.Pending a.now p.quotes.barTtl t)
    (h : (p.dispatchArrival a).result = .tick quote) :
    let q := (p.dispatchArrival a).path
    q.quotes.link.cache.get? t (latestKey quote.instrument) = some quote.toJson.render ∧
      ∀ g ∈ gs, ∃ bar, q.engine.HasBar quote.tick g bar ∧
        q.quotes.link.cache.get? t (currentKey bar.instrument bar.granularity) =
          some bar.toJson.render := by
  intro q
  have hroom : p.HasRoom a.now := ⟨hquotes.hasRoom, fun _ => hbars.hasRoom⟩
  obtain ⟨-, m, rolled, current, hadd, hpath⟩ := dispatch_tick hroom h
  obtain ⟨-, hdistinct, hhas⟩ := hp.reachable.inProgress hadd
  have hwrites : ∀ w ∈ p.recordWrites a.now quote current,
      w.now ≤ t ∧ Clock.Pending w.now w.ttl t := by
    unfold recordWrites
    rw [if_pos hp.cachesBars]
    exact List.forall_mem_cons.mpr
      ⟨⟨hnow, hquotes⟩, List.forall_mem_map.mpr fun bar _ => ⟨hnow, hbars⟩⟩
  have hfound := hp.neverFails.get?_writeAll hwrites
    (p.recordWrites_pairwise a.now quote hdistinct)
  have hq : q = { p with engine := m.engine }.onLink
      (p.quotes.link.writeAll (p.recordWrites a.now quote current)) := hpath
  rw [hq]
  refine ⟨hfound _ List.mem_cons_self, fun g hg => ?_⟩
  obtain ⟨bar, hbar, hengine⟩ := hhas g hg
  refine ⟨bar, hengine, hfound (.ofBar p.quotes a.now bar) (List.mem_cons_of_mem _ ?_)⟩
  rw [if_pos hp.cachesBars]
  exact List.mem_map_of_mem hbar

/-- **When the cache mirrors the engine.**  Whatever payloads came before, after a tick the engine
has a bar in progress for each granularity, and the cache shows the quote exactly if its text reads
back, and each of the bars exactly if its text does.  Instead of a bar with a value that is no
finite number it shows a fault. -/
theorem dispatch_mirrors (hp : p.WritesAll gs) (earlier : List Arrival) {a : Arrival}
    {quote : Quote} {t : Nat} (hnow : a.now ≤ t)
    (hquotes : Clock.Pending a.now p.quotes.quoteTtl t)
    (hbars : Clock.Pending a.now p.quotes.barTtl t)
    (h : ((p.after earlier).dispatchArrival a).result = .tick quote) :
    let q := ((p.after earlier).dispatchArrival a).path
    ((q.quotes.latest t quote.instrument).2 = .ok (some quote) ↔ quote.ReadsBack) ∧
      ∀ g ∈ gs, ∃ bar, q.engine.current? quote.instrument g = some bar ∧
        ShowsBar q.quotes t quote.instrument g bar := by
  obtain ⟨hlater, hquoteTtl, hbarTtl⟩ := hp.after earlier
  rw [← hquoteTtl] at hquotes
  rw [← hbarTtl] at hbars
  have hroom : (p.after earlier).HasRoom a.now := ⟨hquotes.hasRoom, fun _ => hbars.hasRoom⟩
  have hcanonical : quote.instrument.Canonical := canonical_of_classify (dispatch_tick hroom h).1
  obtain ⟨⟨-, -, hnever⟩, -⟩ := hlater.of_continues
    (dispatch_continues _ a.now a.receivedAt a.subscribed a.session a.payload)
  obtain ⟨hlatest, hcurrent⟩ := get?_dispatch hlater hnow hquotes hbars h
  refine ⟨latest_iff_of_get? hnever hcanonical hlatest, fun g hg => ?_⟩
  obtain ⟨bar, hbar, hget⟩ := hcurrent g hg
  have hshows := showsBar_of_get? hnever hbar hcanonical hget
  exact ⟨bar, hbar.current, hshows⟩

/-- Of the second of two ticks the cache shows the quote and the bar of the day. -/
theorem dispatch_mirrors_secondMinute : ∃ (p : TickPath) (first second : Arrival)
    (r : PathStep Dispatched) (quote : Quote) (bar : OpenBar),
    p.WritesAll [.minute1, .day1] ∧ second.now ≤ 0 ∧ Clock.Pending second.now p.quotes.quoteTtl 0 ∧
      Clock.Pending second.now p.quotes.barTtl 0 ∧
      r = (p.after [first]).dispatchArrival second ∧ r.result = .tick quote ∧
      r.path.engine.current? quote.instrument .day1 = some bar ∧ bar.tickCount = 2 ∧
      (r.path.quotes.latest 0 quote.instrument).2 = .ok (some quote) ∧
      (r.path.quotes.current 0 quote.instrument .day1).2 = .ok (some bar) := by
  let aapl : Instrument := ⟨"NASDAQ", "AAPL", by decide, by decide, by decide⟩
  let p : TickPath := ⟨.new [.minute1, .day1], .standard .reliable, true⟩
  let arrival (seconds : String) : Arrival :=
    ⟨0, .epoch, (Registry.empty.insert aapl).1, "s", datedPayload seconds⟩
  let quote : Quote := ⟨aapl, ⟨1704207660, 0, by decide, by decide, by decide⟩, 1, none, none, none,
    none, none, none, none, none, none⟩
  let bar : OpenBar := ⟨aapl, .day1, ⟨1704153600, 0, by decide, by decide, by decide⟩,
    ⟨1704240000, 0, by decide, by decide, by decide⟩, ⟨1, 1, 1, 1, 0⟩, 2⟩
  have hquotes : Clock.Pending 0 p.quotes.quoteTtl 0 := ⟨_, rfl, by decide⟩
  have hbars : Clock.Pending 0 p.quotes.barTtl 0 := ⟨_, rfl, by decide⟩
  have hvalues : bar.ohlcv.Regular := by constructor <;> decide +kernel
  have hquote : quote.ReadsBack := by constructor <;> decide +kernel
  -- the path is computed here, and from then on only what is known of it is used
  obtain ⟨p, first, second, hp, hnow, hquotes, hbars, htick, hbar⟩ :
      ∃ (p : TickPath) (first second : Arrival),
        p.WritesAll [.minute1, .day1] ∧ second.now ≤ 0 ∧
          Clock.Pending second.now p.quotes.quoteTtl 0 ∧
          Clock.Pending second.now p.quotes.barTtl 0 ∧
          ((p.after [first]).dispatchArrival second).result = .tick quote ∧
          ((p.after [first]).dispatchArrival second).path.engine.current? quote.instrument .day1 =
            some bar :=
    ⟨p, arrival "1704207600", arrival "1704207660", ⟨.new, rfl, fun _ => rfl⟩, Nat.le_refl 0,
      hquotes, hbars, by decide +kernel⟩
  obtain ⟨hlatest, hcurrent⟩ := dispatch_mirrors hp [first] hnow hquotes hbars htick
  obtain ⟨bar', hbar', hshows, -⟩ := hcurrent .day1 (by decide)
  obtain rfl := Option.some.inj (hbar.symm.trans hbar')
  exact ⟨p, first, second, _, quote, bar, hp, hnow, hquotes, hbars, rfl, htick, hbar, rfl,
    hlatest.mpr hquote, hshows.mpr ⟨hvalues, by decide⟩⟩

/-- A quote with a volume of more than half of the largest number. -/
def hugePayload : List Char :=
  ("\x7b\"m\":\"qsd\",\"p\":[\"s\",\x7b\"n\":\"NASDAQ:AAPL\",\"v\":\x7b\"lp\":1," ++
    "\"volume\":1e308,\"lp_time\":1704207600\x7d\x7d]\x7d").toList

/-- **The cache does not always mirror the engine**: two such quotes in one minute have a bar in
progress whose volume is no finite number, and the cache shows a fault. -/
theorem dispatch_mirrors_overflow : ∃ (i : Instrument) (p : TickPath) (a : Arrival)
    (r : PathStep Dispatched) (quote : Quote) (bar : OpenBar),
    p.WritesAll [.minute1] ∧ a.payload = hugePayload ∧
      r = (p.after [a]).dispatchArrival a ∧ r.result = .tick quote ∧
      r.path.engine.current? i .minute1 = some bar ∧ bar.ohlcv.volume.isFinite = false ∧
      (r.path.quotes.current a.now i .minute1).2 = .error .encoding := by
  let aapl : Instrument := ⟨"NASDAQ", "AAPL", by decide, by decide, by decide⟩
  let p : TickPath := ⟨.new [.minute1], .standard .reliable, true⟩
  let a : Arrival := ⟨0, .epoch, (Registry.empty.insert aapl).1, "s", hugePayload⟩
  let minute : Timestamp := ⟨1704207600, 0, by decide, by decide, by decide⟩
  let quote : Quote := ⟨aapl, minute, 1, none, none, some 1e308, none, none, none, none, none, none⟩
  let bar : OpenBar := ⟨aapl, .minute1, minute, ⟨1704207660, 0, by decide, by decide, by decide⟩,
    ⟨1, 1, 1, 1, 1e308 + 1e308⟩, 2⟩
  have hp : p.WritesAll [.minute1] := ⟨.new, rfl, fun _ => rfl⟩
  exact ⟨aapl, p, a, _, quote, bar, hp, rfl, rfl, by decide +kernel⟩

end TickPath

end CandleFeed

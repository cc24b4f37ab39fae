import CandleFeed.Proofs.Service.Gate
import CandleFeed.Proofs.Storage.QuoteCache

/-!
# Quotes that are written late

The dispatcher writes a quote after it has brought its tick to the engine, and by then the registry
is no longer locked.  So an unsubscription may come and go between the two, and the quote is written
after it was to be taken away: the last write wins (`Interplay.forgotten_returns`).

That is the only way.  Once an unsubscription has returned, and until the instrument is subscribed
again, its latest quote is none, or the one that the dispatcher had in its hand when the
unsubscription returned (**`Interplay.run_forgotten`**).
-/

namespace CandleFeed

/-- The dispatcher has the quote to write. -/
def Hand.Holds (hand : Hand) (quote : Quote) : Prop := ∃ current, hand = .quote quote current

/-- A hand without a quote to write holds none. -/
theorem Hand.not_holds {hand : Hand} (h : hand.hasQuote = false) (quote : Quote) :
    ¬ hand.Holds quote := by
  rintro ⟨current, rfl⟩
  exact absurd h (by simp [Hand.hasQuote])

namespace Standing

variable {w w' : Standing} {sec : ServiceSection} {i : Instrument} {hand : Hand}

/-- No section changes which calls of the cache fail. -/
theorem Turn.failure (h : w.Turn sec w') : w'.quotes.link.failure = w.quotes.link.failure := by
  cases h with
  | writesQuote => exact QuoteCache.setLatest_failure _ _ _
  | writesBar => exact QuoteCache.setCurrent_failure _ _ _
  | forgets => exact QuoteCache.clearLatest_failure _ _
  | asks => exact QuoteCache.latest_failure _ _ _
  | _ => rfl

/-- An instrument that is not subscribed has no other quote than one that the dispatcher had in its
hand before, neither in the cache nor on the way there. -/
structure Forgotten (hand : Hand) (i : Instrument) (w : Standing) : Prop where
  unsubscribed : i ∉ w.registry.order
  held : ∀ quote, w.hand.Holds quote → quote.instrument = i → hand.Holds quote
  cached : w.quotes.LatestIs i fun text =>
    ∃ quote, hand.Holds quote ∧ quote.instrument = i ∧ text = quote.toJson.render

/-- **An instrument that is not subscribed gets no other quote.** -/
theorem Forgotten.turn (h : w.Forgotten hand i) (hsec : sec ≠ .move (.subscribe i))
    (hturn : w.Turn sec w') : w'.Forgotten hand i := by
  obtain ⟨hunsubscribed, hheld, hcached⟩ := h
  have hfreed : ∀ next : Hand, next.hasQuote = false →
      ∀ quote, next.Holds quote → quote.instrument = i → hand.Holds quote :=
    fun next hnext quote hholds => absurd hholds (Hand.not_holds hnext quote)
  cases hturn with
  | turnsTo _ next hnext => exact ⟨hunsubscribed, hfreed next hnext, hcached⟩
  | adds receivedAt quote m outcome next hsubscribed hadd hnext =>
    refine ⟨hunsubscribed, ?_, hcached⟩
    rcases hnext with rfl | ⟨current, rfl⟩
    · exact hfreed .free rfl
    · -- the quote that comes into the hand is of a subscribed instrument
      rintro quote' ⟨current', heq⟩ hinstrument
      obtain ⟨rfl, -⟩ := Hand.quote.inj heq
      exact absurd (hinstrument ▸ hsubscribed) hunsubscribed
  | writesQuote now quote current next hquote hnext =>
    refine ⟨hunsubscribed, hfreed next hnext, hcached.setLatest now fun hinstrument => ?_⟩
    exact ⟨quote, hheld quote ⟨current, hquote⟩ hinstrument, hinstrument, rfl⟩
  | writesBar now bar next hnext =>
    exact ⟨hunsubscribed, hfreed next hnext, hcached.setCurrent now bar⟩
  | subscribes j =>
    refine ⟨fun hmem => ?_, hheld, hcached⟩
    rcases Registry.mem_order_insert.mp hmem with rfl | hmem
    · exact hsec rfl
    · exact hunsubscribed hmem
  | leaves j =>
    exact ⟨fun hmem => hunsubscribed (Registry.mem_order_remove.mp hmem).2, hheld, hcached⟩
  | forgets j => exact ⟨hunsubscribed, hheld, hcached.clearLatest j⟩
  | asks now j => exact ⟨hunsubscribed, hheld, hcached.latest now j⟩
  | _ => exact ⟨hunsubscribed, hheld, hcached⟩

end Standing

namespace Interplay

open Ledger (plainConfig quotePayload)

variable {config : FeedConfig} {link : CacheLink} {sink : BarSink} {source : Option HistorySource}
  {s : Service} {x y : Interplay} {sections later : List ServiceSection} {i : Instrument}

/-- The calls of the cache that fail are the same throughout a run. -/
theorem failure_run (hrun : x.run sections = some y) :
    y.standing.quotes.link.failure = x.standing.quotes.link.failure :=
  run_keeps (P := fun y => y.standing.quotes.link.failure = x.standing.quotes.link.failure)
    (fun _ _ _ _ h hstep => (step_turn hstep).failure.trans h) rfl hrun

/-- An instrument that is not subscribed gets no other quote throughout a run in which nobody
subscribes it. -/
theorem forgotten_run {hand : Hand} (hx : x.standing.Forgotten hand i)
    (hlater : .move (.subscribe i) ∉ later) (hrun : x.run later = some y) :
    y.standing.Forgotten hand i :=
  run_keeps (P := fun y => y.standing.Forgotten hand i)
    (fun _ hsec _ _ h hstep => h.turn (fun heq => hlater (heq ▸ hsec)) (step_turn hstep)) hx hrun

/-- An unsubscription that returns leaves nothing of the latest quote, on a cache that never fails.
-/
theorem forgotten_forget (hnever : x.standing.quotes.link.NeverFails)
    (h : x.step (.move (.forget i)) = some y) (hunsubscribed : i ∉ y.service.registry.order) :
    y.standing.Forgotten y.hand i := by
  refine ⟨hunsubscribed, fun quote hholds _ => hholds, ?_⟩
  by_cases hi : ⟨i, true⟩ ∈ x.departures
  · rw [step_forget hi] at h
    obtain rfl := Option.some.inj h
    rw [Service.forget_service]
    exact QuoteCache.latestIs_clearLatest hnever i _
  · simp only [step, departuresAfter, if_neg hi, Option.bind_none] at h
    exact absurd h (by simp)

/-- **Once an unsubscription has returned, the latest quote is none or the one that was on its
way**, until the instrument is subscribed again, however sections alternate, on a cache that never
fails. -/
theorem run_forgotten (hnew : Service.new config link sink source = .ok s)
    (hnever : link.NeverFails) (hrun : (start s).run (sections ++ [.move (.forget i)]) = some x)
    (hunsubscribed : i ∉ x.service.registry.order) (hlater : .move (.subscribe i) ∉ later)
    (hlaterRun : x.run later = some y) (now : Nat) :
    (y.service.latest now i).2 = .ok none ∨
      ∃ quote, x.hand.Holds quote ∧ quote.instrument = i ∧
        (y.service.latest now i).2 = QuoteCache.readBack quote.toJson.render := by
  obtain ⟨x', hrun', hforget⟩ := run_append_eq_some hrun
  have hstart : (start s).standing.quotes.link.NeverFails := by
    obtain ⟨instruments, rfl⟩ := Service.eq_create_of_new hnew
    exact hnever
  have hnever' : x'.standing.quotes.link.NeverFails := fun n => by
    rw [failure_run hrun']
    exact hstart n
  have hneverY : y.standing.quotes.link.NeverFails := fun n => by
    rw [failure_run hlaterRun, failure_run hrun]
    exact hstart n
  have hforgotten := forgotten_run
    (forgotten_forget hnever' (step_of_run_single hforget) hunsubscribed) hlater hlaterRun
  rcases hforgotten.cached.answer hneverY now with hnone | ⟨text, ⟨quote, hholds, hi, rfl⟩, htext⟩
  · exact Or.inl hnone
  · exact Or.inr ⟨quote, hholds, hi, htext⟩

/-- An instrument is unsubscribed after its quote was written; a second payload waits in the queue
meanwhile, and leaves the latest quote none. -/
theorem run_forgotten_queued : ∃ i s x y later,
    Service.new plainConfig .reliable .plain none = .ok s ∧ CacheLink.reliable.NeverFails ∧
    (start s).run ((arrivalSections i [quotePayload "100" "10", quotePayload "50" "70"] ++
      [.fetch, .judge .epoch, .writeQuote 0, .move (.leave i), .move (.closeBars i)]) ++
        [.move (.forget i)]) = some x ∧
    i ∉ x.service.registry.order ∧ .move (.subscribe i) ∉ later ∧ x.run later = some y ∧
    x.hand = .free ∧ x.service.intake.queue.waiting.length = 1 ∧
    y.service.intake.queue.waiting = [] ∧ (y.service.latest 0 i).2 = .ok none := by
  let aapl : Instrument := ⟨"NASDAQ", "AAPL", by decide, by decide, by decide⟩
  let sections : List ServiceSection :=
    (arrivalSections aapl [quotePayload "100" "10", quotePayload "50" "70"] ++
      [.fetch, .judge .epoch, .writeQuote 0, .move (.leave aapl), .move (.closeBars aapl)]) ++
        [.move (.forget aapl)]
  have h : ((outcome? plainConfig sections).bind fun x =>
      (x.run [.fetch, .judge .epoch]).map fun y =>
        (x.service.registry.order, x.hand, x.service.intake.queue.waiting.length,
          y.service.intake.queue.waiting)) = some ([], .free, 1, []) := by decide +kernel
  obtain ⟨s, x, y, hnew, hrun, hlaterRun, heq⟩ := outcome?_bind_eq_some h
  simp only [Prod.mk.injEq] at heq
  obtain ⟨horder, hhand, hwaiting, hnone⟩ := heq
  have hunsubscribed : aapl ∉ x.service.registry.order := horder ▸ List.not_mem_nil
  have hquiet : .move (.subscribe aapl) ∉ ([.fetch, .judge .epoch] : List ServiceSection) := by simp
  have hlatest : (y.service.latest 0 aapl).2 = .ok none := by
    rcases run_forgotten hnew (fun _ => rfl) hrun hunsubscribed hquiet hlaterRun 0 with
      hlatest | ⟨quote, hholds, -⟩
    · exact hlatest
    · rw [hhand] at hholds
      exact absurd hholds (Hand.not_holds rfl quote)
  exact ⟨aapl, s, x, y, _, hnew, fun _ => rfl, hrun, hunsubscribed, hquiet, hlaterRun, hhand,
    hwaiting, hnone, hlatest⟩

/-- **A quote comes back after an unsubscription has returned**: its tick had gone to the engine,
and it was still to be written when the unsubscription began. -/
theorem forgotten_returns : ∃ i s x y quote, i.symbol = "AAPL" ∧
    Service.new plainConfig .reliable .plain none = .ok s ∧ CacheLink.reliable.NeverFails ∧
    (start s).run (arrivalSections i [quotePayload "100" "10"] ++
      [.fetch, .judge .epoch, .move (.leave i), .move (.closeBars i), .move (.forget i)]) =
        some x ∧
    i ∉ x.service.registry.order ∧ x.departures = [] ∧ x.run [.writeQuote 0] = some y ∧
    (y.service.latest 0 i).2 = .ok (some quote) ∧ quote.lastPrice = 100 := by
  let aapl : Instrument := ⟨"NASDAQ", "AAPL", by decide, by decide, by decide⟩
  let sections : List ServiceSection := arrivalSections aapl [quotePayload "100" "10"] ++
    [.fetch, .judge .epoch, .move (.leave aapl), .move (.closeBars aapl), .move (.forget aapl)]
  have h : ((outcome? plainConfig sections).bind fun x => (x.run [.writeQuote 0]).map fun y =>
      (x.service.registry.order, x.departures,
        (y.service.latest 0 aapl).2.toOption.join.map Quote.lastPrice)) =
      some ([], [], some 100) := by decide +kernel
  obtain ⟨s, x, y, hnew, hrun, hwrite, heq⟩ := outcome?_bind_eq_some h
  simp only [Prod.mk.injEq] at heq
  obtain ⟨horder, hdepartures, hlatest⟩ := heq
  obtain ⟨quote, hquote, hprice⟩ := Option.map_eq_some_iff.mp hlatest
  have hanswer : (y.service.latest 0 aapl).2 = .ok (some quote) :=
    eq_ok_of_toOption (Option.join_eq_some_iff.mp hquote)
  exact ⟨aapl, s, x, y, quote, rfl, hnew, fun _ => rfl, hrun, horder ▸ List.not_mem_nil,
    hdepartures, hwrite, hanswer, hprice⟩

end Interplay

end CandleFeed

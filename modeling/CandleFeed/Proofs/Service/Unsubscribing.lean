import CandleFeed.Proofs.Aggregation.InOrder
import CandleFeed.Proofs.Service.Conservation

/-!
# What unsubscribing leaves in the store

An instrument that is unsubscribed has its bars in progress closed and stored.  When it is
subscribed again and more ticks of the same bucket come, their bar has the same key, and the store
replaces the one by the other.

A bucket **`IsSplit`** when that happens.  **`Ledger.StoredStretches`** says what a store that takes
every bar holds after a stop, for ticks that come in order of time: the bar of all accepted ticks of
a bucket that is not split, and of a bucket that is split only the bar of the ticks since the
instrument was last unsubscribed with more of them to come.
-/

namespace CandleFeed.Ledger

variable {config : FeedConfig} {link : CacheLink} {sink : BarSink} {source : Option HistorySource}
  {s : Service} {l : Ledger} {moves : List ServiceMove} {gs : List Granularity}

/-- The calls of the engine. -/
def calls (l : Ledger) : List EngineCall := (callsIn l.trace).map Prod.fst

/-- The accepted ticks of an instrument in a bucket. -/
def acceptedOf (l : Ledger) (i : Instrument) (g : Granularity) (bucket : Timestamp) : List Tick :=
  (acceptedIn l.trace).filter (Tick.isIn i g bucket)

/-- The bars of the instrument were closed for an unsubscription between two accepted ticks of the
bucket. -/
def IsSplit (l : Ledger) (i : Instrument) (g : Granularity) (bucket : Timestamp) : Prop :=
  ∃ before after, l.calls = before ++ .remove i :: after ∧
    (addedTicks before).filter (Tick.isIn i g bucket) ≠ [] ∧
    (addedTicks after).filter (Tick.isIn i g bucket) ≠ []

/-- No tick comes after the stop has closed all bars, so only unsubscriptions interrupt a bucket. -/
theorem Sound.interrupted_iff (h : l.Sound gs sink) (i : Instrument) (g : Granularity)
    (bucket : Timestamp) : Interrupted i g bucket l.calls ↔ l.IsSplit i g bucket := by
  constructor
  · rintro ⟨before, c, after, heq, hc, hbefore, hafter⟩
    cases c with
    | tick t => exact absurd hc (by simp [EngineCall.closes])
    | flush =>
      have hsilent := h.recorded.silent
      rw [show (callsIn l.trace).map Prod.fst = before ++ .flush :: after from heq] at hsilent
      have hnone := (List.pairwise_cons.mp (List.pairwise_append.mp hsilent).2.1).1
      have hempty : addedTicks after = [] :=
        List.filterMap_eq_nil_iff.mpr fun c' hc' => hnone c' hc' rfl
      exact absurd (by rw [hempty]; rfl) hafter
    | remove j =>
      obtain rfl : j = i := of_decide_eq_true hc
      exact ⟨before, after, heq, hbefore, hafter⟩
  · rintro ⟨before, after, heq, hbefore, hafter⟩
    exact ⟨before, .remove i, after, heq, decide_eq_true rfl, hbefore, hafter⟩

/-- What the store of a service holds after a stop, if the sink takes every bar. -/
structure StoredStretches (gs : List Granularity) (l : Ledger) : Prop where
  /-- Under each key is the bar of the latest stretch of the bucket. -/
  stored : ∀ i, ∀ g ∈ gs, ∀ bucket, l.service.store.get? ⟨i, g, bucket⟩ =
    (Segment.ofTicks? (latestTicks i g bucket l.calls)).map Segment.ohlcv
  /-- It is the bar of all accepted ticks of a bucket that is not split. -/
  whole : ∀ i, ∀ g ∈ gs, ∀ bucket, ¬ l.IsSplit i g bucket →
    l.service.store.get? ⟨i, g, bucket⟩ =
      (Segment.ofTicks? (l.acceptedOf i g bucket)).map Segment.ohlcv
  /-- Ticks of a bucket that is split are missing. -/
  missing : ∀ i g bucket, l.IsSplit i g bucket →
    (latestTicks i g bucket l.calls).length < (l.acceptedOf i g bucket).length

/-- **A stored bar covers the accepted ticks since the instrument was last unsubscribed within the
bucket**, all of them if it was not, whatever else happens from start to stop, as long as ticks come
in order of time and the sink takes every bar. -/
theorem run_storedStretches (hnew : Service.new config link sink source = .ok s)
    (hsink : ∀ n key, sink.refusal n key = none) (hempty : sink.store = .empty)
    (hrun : (start s).run moves = some l) (hreturned : l.stage = .returned)
    (horder : ∀ i, InOrder ((acceptedIn l.trace).filter fun t => t.instrument = i)) :
    l.StoredStretches config.aggregation.granularities := by
  have h := (sound_start hnew).run hrun
  obtain ⟨e, hengineRun, -, hbuilders⟩ := h.engine_returned hreturned
  have hticks : addedTicks l.calls = acceptedIn l.trace := h.recorded.ticks
  have hstore : l.service.store = BarStore.empty.writeAll (emittedIn l.trace) := by
    unfold Service.store
    rw [h.flusher_returned hreturned, Flusher.flush_store hsink, Flusher.start, hempty]
  have hstored : ∀ i, ∀ g ∈ config.aggregation.granularities, ∀ bucket,
      l.service.store.get? ⟨i, g, bucket⟩ =
        (Segment.ofTicks? (latestTicks i g bucket l.calls)).map Segment.ohlcv := by
    intro i g hg bucket
    have hidle : openAfter i g none l.calls = none := by
      have hopen := Engine.run_current?_isSome hengineRun i hg
      rw [Engine.current?_of_empty hbuilders] at hopen
      exact Option.not_isSome_iff_eq_none.mp (ne_true_of_eq_false hopen.symm)
    have horder' : InOrder ((addedTicks l.calls).filter fun t => t.instrument = i) := by
      rw [hticks]
      exact horder i
    rw [hstore]
    exact Engine.stored_latest hengineRun hg horder' hidle bucket
  refine ⟨hstored, fun i g hg bucket hwhole => ?_, fun i g bucket hsplit => ?_⟩
  · have hall := (latestTicks_eq_iff i g bucket l.calls).mpr fun hinterrupted =>
      hwhole ((h.interrupted_iff i g bucket).mp hinterrupted)
    rw [hstored i g hg, hall, hticks]
    rfl
  · have hlength := ((h.interrupted_iff i g bucket).mpr hsplit).length_lt
    rw [hticks] at hlength
    exact hlength

/-- A tick, the instrument is unsubscribed and subscribed again, then another tick, and a stop. -/
def resubscribedMoves (i : Instrument) (first second : String) : List ServiceMove :=
  openingMoves ++ arrivalMoves (quotePayload "100" first) ++
    [.dispatch 0 .epoch, .leave i, .closeBars i, .forget i, .session 0 .change, .session 0 .written,
      .subscribe i, .session 0 .change, .session 0 .written] ++
    arrivalMoves (quotePayload "50" second) ++ [.dispatch 0 .epoch] ++ closingMoves ++
    [.closeAll, .closeEngine, .write, .write, .write, .write, .returnStop]

/-- Ticks that come in order of time do so instrument by instrument. -/
theorem inOrder_filter {ticks : List Tick}
    (h : ticks.Pairwise fun t t' => t'.timestamp.before t.timestamp = false) (i : Instrument) :
    InOrder (ticks.filter fun t => t.instrument = i) := h.filter _

/-- With the second tick in another minute of the same hour, the bars of both minutes are whole, and
that of the hour lacks the first tick. -/
theorem run_storedStretches_sameHour : ∃ i s l bucket, i.symbol = "AAPL" ∧
    Service.new plainConfig .reliable .plain none = .ok s ∧
    (∀ n key, BarSink.plain.refusal n key = none) ∧ BarSink.plain.store = .empty ∧
    (start s).run (resubscribedMoves i "1704207600" "1704207660") = some l ∧ l.stage = .returned ∧
    (∀ i, InOrder ((acceptedIn l.trace).filter fun t => t.instrument = i)) ∧
    (latestTicks i .minute1 bucket l.calls).map Tick.price = [100] ∧
    (l.acceptedOf i .minute1 bucket).map Tick.price = [100] ∧
    (latestTicks i .hour1 bucket l.calls).map Tick.price = [50] ∧
    (l.acceptedOf i .hour1 bucket).map Tick.price = [100, 50] ∧
    l.StoredStretches plainConfig.aggregation.granularities := by
  let aapl : Instrument := ⟨"NASDAQ", "AAPL", by decide, by decide, by decide⟩
  let bucket : Timestamp := (Timestamp.ofSeconds? 1704207600).getD .epoch
  have h : (outcome? plainConfig .plain (resubscribedMoves aapl "1704207600" "1704207660")).map
      (fun l => (l.stage,
        decide ((acceptedIn l.trace).Pairwise fun t t' => t'.timestamp.before t.timestamp = false),
        [latestTicks aapl .minute1 bucket l.calls, l.acceptedOf aapl .minute1 bucket,
          latestTicks aapl .hour1 bucket l.calls, l.acceptedOf aapl .hour1 bucket].map
            (List.map Tick.price))) =
      some (.returned, true, [[100], [100], [50], [100, 50]]) := by decide +kernel
  obtain ⟨s, l, hnew, hrun, heq⟩ := outcome?_map_eq_some h
  obtain ⟨hreturned, heq⟩ := Prod.mk.inj heq
  obtain ⟨hordered, hprices⟩ := Prod.mk.inj heq
  have horder := inOrder_filter (of_decide_eq_true hordered)
  simp only [List.map_cons, List.map_nil, List.cons.injEq, and_true] at hprices
  obtain ⟨hminute, hminute', hhour, hhour'⟩ := hprices
  exact ⟨aapl, s, l, bucket, rfl, hnew, fun _ _ => rfl, rfl, hrun, hreturned, horder, hminute,
    hminute', hhour, hhour',
    run_storedStretches hnew (fun _ _ => rfl) rfl hrun hreturned horder⟩

/-- **Ticks are lost when an instrument is subscribed again within a bucket**: with the second tick
in the same minute, what is stored is not the bar of both. -/
theorem resubscribed_loses : ∃ i s l bucket, i.symbol = "AAPL" ∧
    Service.new plainConfig .reliable .plain none = .ok s ∧
    (start s).run (resubscribedMoves i "1704207600" "1704207610") = some l ∧ l.stage = .returned ∧
    (∀ i, InOrder ((acceptedIn l.trace).filter fun t => t.instrument = i)) ∧
    l.service.store.get? ⟨i, .minute1, bucket⟩ = some ⟨50, 50, 50, 50, 2⟩ ∧
    (Segment.ofTicks? (l.acceptedOf i .minute1 bucket)).map Segment.ohlcv =
      some ⟨100, 100, 50, 50, 4⟩ := by
  let aapl : Instrument := ⟨"NASDAQ", "AAPL", by decide, by decide, by decide⟩
  let bucket : Timestamp := (Timestamp.ofSeconds? 1704207600).getD .epoch
  have h : (outcome? plainConfig .plain (resubscribedMoves aapl "1704207600" "1704207610")).map
      (fun l => (l.stage,
        decide ((acceptedIn l.trace).Pairwise fun t t' => t'.timestamp.before t.timestamp = false),
        l.service.store.get? ⟨aapl, .minute1, bucket⟩,
        (Segment.ofTicks? (l.acceptedOf aapl .minute1 bucket)).map Segment.ohlcv)) =
      some (.returned, true, some ⟨50, 50, 50, 50, 2⟩, some ⟨100, 100, 50, 50, 4⟩) := by
    decide +kernel
  obtain ⟨s, l, hnew, hrun, heq⟩ := outcome?_map_eq_some h
  obtain ⟨hreturned, heq⟩ := Prod.mk.inj heq
  obtain ⟨hordered, heq⟩ := Prod.mk.inj heq
  obtain ⟨hstored, hall⟩ := Prod.mk.inj heq
  exact ⟨aapl, s, l, bucket, rfl, hnew, hrun, hreturned,
    inOrder_filter (of_decide_eq_true hordered), hstored, hall⟩

end CandleFeed.Ledger

import CandleFeed.Proofs.Run
import CandleFeed.Proofs.Service.Books
import CandleFeed.Proofs.Storage.Draining

/-!
# From start to stop, nothing is lost

The books of a new service are in order, and every move keeps them so (**`Ledger.Sound`**).  Once
the stop has returned, no payload waits for the dispatcher, no bar for the sink, and there are no
builders.  So the books are complete then (**`Ledger.Complete`**), whatever happened in between: the
sink was offered exactly the bars that the engine emitted.
-/

namespace CandleFeed

/-- A service that passes its checks is created with the instruments of its settings. -/
theorem Service.eq_create_of_new {config : FeedConfig} {link : CacheLink} {sink : BarSink}
    {source : Option HistorySource} {s : Service} (h : new config link sink source = .ok s) :
    ∃ instruments, s = create config instruments link sink source := by
  unfold new at h
  split at h
  · exact absurd h (by simp)
  · split at h
    · exact absurd h (by simp)
    · split at h
      · exact absurd h (by simp)
      · rename_i instruments _
        exact ⟨instruments, (Except.ok.inj h).symm⟩

namespace Ledger

variable {config : FeedConfig} {link : CacheLink} {sink : BarSink} {source : Option HistorySource}
  {s : Service} {l l' : Ledger} {moves : List ServiceMove} {gs : List Granularity}

/-- The books of a service are kept. -/
def Sound (gs : List Granularity) (sink : BarSink) (l : Ledger) : Prop :=
  l.service.workings.Sound gs sink l.stage l.trace

/-- A new service has nothing in its books. -/
theorem sound_start (hnew : Service.new config link sink source = .ok s) :
    (start s).Sound config.aggregation.granularities sink := by
  obtain ⟨instruments, rfl⟩ := Service.eq_create_of_new hnew
  exact {
    stopping := ⟨rfl, Or.inr ⟨rfl, rfl⟩, by simp [start, StopStage.clientIsClosed],
      by simp [start, StopStage.barsAreClosed]⟩
    accounted := ⟨rfl, [], rfl, rfl⟩
    recorded := ⟨⟨.new config.aggregation.granularities, rfl, rfl⟩, rfl,
      by simp [start, StopStage.barsAreClosed], by simp [start, callsIn], .nil⟩
    finished := ⟨by simp [start, StopStage.barsAreClosed], by simp [start]⟩ }

/-- Every move keeps the books. -/
theorem Sound.move (h : l.Sound gs sink) {m : ServiceMove}
    (hmove : l.move m = some l') : l'.Sound gs sink := by
  obtain ⟨happenings, htrace, hturn⟩ := move_turn hmove
  unfold Sound
  rw [htrace]
  exact Workings.Sound.turn h hturn

/-- The books are kept over a run. -/
theorem Sound.run (h : l.Sound gs sink)
    (hrun : l.run moves = some l') : l'.Sound gs sink := by
  apply foldlM_keeps _ h hrun
  intro m _ k k' hk hmove
  exact hk.move hmove

/-- The books of a service whose stop has returned. -/
structure Complete (gs : List Granularity) (sink : BarSink) (l : Ledger) : Prop where
  /-- The engine emitted the bars that its calls make of a new one. -/
  ran : ∃ e, (Engine.new gs).run ((callsIn l.trace).map Prod.fst) =
      some (e, (callsIn l.trace).map Prod.snd) ∧
    l.service.engine = e.close
  emitted : l.service.engine.emittedTotal = (emittedIn l.trace).length
  /-- The sink was offered these bars, each once and in the order of emission, and no others. -/
  offered : l.service.flusher.sink.offered = sink.offered ++ (emittedIn l.trace).map ClosedBar.offer
  /-- What became of the sink is what these offers make of it, whatever it refused. -/
  offers : l.service.flusher.sink = sink.offerAll (emittedIn l.trace)
  /-- The flusher has counted what was taken and what was refused, which is all of them. -/
  written : l.service.flusher.stats.written = (sink.taken (emittedIn l.trace)).length
  failed : l.service.flusher.stats.failed = (sink.refused (emittedIn l.trace)).length
  counted : l.service.flusher.stats.written + l.service.flusher.stats.failed =
    (emittedIn l.trace).length
  /-- In each granularity they have taken every tick that was dispatched. -/
  ticks : ∀ i, ∀ g ∈ gs, ((Engine.barsOf i g (emittedIn l.trace)).map ClosedBar.tickCount).sum =
    (dispatchedIn l.trace).countP fun d => d.2.tick?.any fun quote => quote.instrument = i
  /-- Everything that was ever queued was dispatched before the last bars were closed. -/
  dispatched : ∃ before emitted after, l.trace = before ++ .called .flush emitted :: after ∧
    queuedIn before = (dispatchedIn before).map Prod.fst ∧
    queuedIn after = [] ∧ dispatchedIn after = []
  /-- No builder is left. -/
  idle : l.service.engine.builders = .empty
  /-- Another stop does nothing, and whatever happens, the sink is offered nothing more. -/
  final : l.service.requestStop = none ∧
    ∀ moves l', l.run moves = some l' → l'.service.flusher = l.service.flusher

/-- Once the stop has returned, no move has the flusher do anything. -/
theorem Sound.move_returned (h : l.Sound gs sink)
    (hreturned : l.stage = .returned) {m : ServiceMove} (hmove : l.move m = some l') :
    l'.stage = .returned ∧ l'.service.flusher = l.service.flusher := by
  obtain ⟨happenings, -, hturn⟩ := move_turn hmove
  have hstopped := h.stopping.stopped
  have hbars := h.finished.written hreturned
  rw [hreturned] at hturn hstopped
  change l'.stage = .returned ∧ l'.service.workings.flusher = l.service.workings.flusher
  generalize l.service.workings = w at hturn hstopped hbars
  generalize l'.service.workings = w' at hturn
  generalize l'.stage = stage' at hturn
  cases hturn with
  | writes bar bars hwaiting => exact absurd (hbars.symm.trans hwaiting) (by simp)
  | requests hfresh => exact absurd (hfresh.symm.trans hstopped) (by simp [StopStage.isRequested])
  | closesClient hstage _ => exact absurd hstage (by simp)
  | closesAll hstage _ => exact absurd hstage (by simp)
  | closesEngine hstage => exact absurd hstage (by simp)
  | returns hstage _ => exact absurd hstage (by simp)
  | _ => exact ⟨rfl, rfl⟩

/-- Once the stop has returned, the flusher stays as it is. -/
theorem Sound.run_returned (h : l.Sound gs sink)
    (hreturned : l.stage = .returned) (hrun : l.run moves = some l') :
    l'.service.flusher = l.service.flusher := by
  -- what is kept is that the books are sound, that the stop has returned, and the flusher
  have hkept : l'.Sound gs sink ∧ l'.stage = .returned ∧
      l'.service.flusher = l.service.flusher := by
    apply foldlM_keeps (P := fun k => k.Sound gs sink ∧ k.stage = .returned ∧
      k.service.flusher = l.service.flusher) _ ⟨h, hreturned, rfl⟩ hrun
    rintro m - k k' ⟨hk, hstage, hsame⟩ hmove
    obtain ⟨hstage', hflusher⟩ := hk.move_returned hstage hmove
    exact ⟨hk.move hmove, hstage', hflusher.trans hsame⟩
  exact hkept.2.2

/-- Once the stop has returned, the calls are a run after which the engine was closed, and it leaves
no builder. -/
theorem Sound.engine_returned (h : l.Sound gs sink)
    (hreturned : l.stage = .returned) : ∃ e,
      (Engine.new gs).run ((callsIn l.trace).map Prod.fst) =
        some (e, (callsIn l.trace).map Prod.snd) ∧
      l.service.engine = e.close ∧ e.builders = .empty := by
  obtain ⟨e, hrun, hengine⟩ := h.recorded.run
  replace hengine : l.service.engine = e.close := by
    rw [hreturned] at hengine
    exact hengine
  have hidle : l.service.engine.builders = .empty := h.recorded.idle (by rw [hreturned]; rfl)
  rw [hengine] at hidle
  exact ⟨e, hrun, hengine, hidle⟩

/-- Once the stop has returned, the flusher has flushed all bars that were emitted. -/
theorem Sound.flusher_returned (h : l.Sound gs sink) (hreturned : l.stage = .returned) :
    l.service.flusher = ((Flusher.start sink).flush (emittedIn l.trace)).1 := by
  obtain ⟨bars, hemitted, hflusher⟩ := h.accounted.bars
  rw [h.finished.written hreturned, List.append_nil] at hemitted
  subst hemitted
  exact hflusher

/-- Sound books are complete once the stop has returned. -/
theorem Sound.complete (h : l.Sound gs sink)
    (hreturned : l.stage = .returned) : l.Complete gs sink := by
  have hclosed : l.stage.barsAreClosed = true := by rw [hreturned]; rfl
  obtain ⟨e, hrun, hengine, hempty⟩ := h.engine_returned hreturned
  have hflusher := h.flusher_returned hreturned
  have hflush := Flusher.flush_eq (Flusher.start sink) (emittedIn l.trace)
  rw [← hflusher] at hflush
  exact {
    ran := ⟨e, hrun, hengine⟩
    emitted := by
      rw [hengine]
      exact (Engine.run_emittedTotal rfl hrun).trans (Nat.zero_add _)
    offered := by rw [hflush]; rfl
    offers := by rw [hflusher]; exact Flusher.flush_sink _ _
    written := by rw [hflush]; exact Nat.zero_add _
    failed := by rw [hflush]; exact Nat.zero_add _
    counted := by
      rw [hflusher, Flusher.flush_counts]
      exact Nat.zero_add _
    ticks := fun i g hg => by
      have hcount := Engine.run_tickCount hrun i hg
      rw [Engine.figuresOf, Engine.current?_of_empty hempty, ticksOf_eq_filter,
        h.recorded.ticks] at hcount
      simp only [Option.toList_none, List.map_nil, List.append_nil, List.map_map] at hcount
      refine hcount.trans ?_
      rw [← List.countP_eq_length_filter, acceptedIn, List.countP_filterMap]
      refine List.countP_congr fun d _ => ?_
      cases d.2.tick? <;> simp [Quote.tick]
    dispatched := h.finished.flush hclosed
    idle := h.recorded.idle hclosed
    final := by
      refine ⟨?_, fun moves l' hmoves => h.run_returned hreturned hmoves⟩
      have hstopped : l.service.stopped = l.stage.isRequested := h.stopping.stopped
      rw [hreturned] at hstopped
      unfold Service.requestStop
      exact if_pos hstopped }

/-- **No accepted tick is lost from start to stop**, whatever payloads come, however often the
session reconnects, whoever subscribes and unsubscribes, and whatever bars the sink refuses, as long
as the dispatcher does not break off. -/
theorem run_complete (hnew : Service.new config link sink source = .ok s)
    (hrun : (start s).run moves = some l) (hreturned : l.stage = .returned) :
    l.Complete config.aggregation.granularities sink :=
  ((sound_start hnew).run hrun).complete hreturned

/-- Settings with an instrument and bars of a minute and an hour. -/
def plainConfig : FeedConfig :=
  { FeedConfig.standard with
    aggregation := ⟨[.minute1, .hour1], false⟩
    symbols := ["NASDAQ:AAPL"] }

/-- A quote of the instrument, as the provider sends it. -/
def quotePayload (price seconds : String) : List Char :=
  ("\x7b\"m\":\"qsd\",\"p\":[\"qs\",\x7b\"n\":\"NASDAQ:AAPL\",\"v\":\x7b\"lp\":" ++ price ++
    ",\"volume\":2,\"lp_time\":" ++ seconds ++ "\x7d\x7d]\x7d").toList

/-- A start, and all steps of the session until it listens. -/
def openingMoves : List ServiceMove :=
  [.start, .session 0 .goOn, .session 0 (.dialed "qs"), .session 0 .written, .session 0 .written,
    .session 0 .goOn, .session 0 .written, .session 0 .goOn]

/-- A payload arrives and is queued. -/
def arrivalMoves (payload : List Char) : List ServiceMove :=
  [.session 0 (.received (Frame.encode payload)), .session 0 .taken]

/-- A stop is requested, and the session ends. -/
def closingMoves : List ServiceMove :=
  [.requestStop, .session 0 .stopped, .session 0 .closed, .closeClient]

/-- What comes of moves of a new service, where all of them can be made. -/
def outcome? (config : FeedConfig) (sink : BarSink) (moves : List ServiceMove) : Option Ledger :=
  (Service.new config .reliable sink none).toOption.bind fun s => (start s).run moves

/-- Where something came of the moves, there is a service that made them. -/
theorem outcome?_map_eq_some {α : Type} {f : Ledger → α} {a : α}
    (h : (outcome? config sink moves).map f = some a) :
    ∃ s l, Service.new config .reliable sink none = .ok s ∧ (start s).run moves = some l ∧
      f l = a := by
  obtain ⟨l, hl, rfl⟩ := Option.map_eq_some_iff.mp h
  obtain ⟨s, hs, hrun⟩ := Option.bind_eq_some_iff.mp hl
  exact ⟨s, l, eq_ok_of_toOption hs, hrun, rfl⟩

/-- A run whose second payload is dispatched after the session has ended, with a sink that refuses
the bar of the hour. -/
theorem run_complete_lateDispatch : ∃ s moves l,
    Service.new plainConfig .reliable (.refusing "full" (· == .hour1)) none = .ok s ∧
    (start s).run moves = some l ∧ l.stage = .returned ∧
    (emittedIn l.trace).map ClosedBar.tickCount = [1, 1, 2] ∧
    l.service.flusher.sink.offered.map (fun o => (o.1.granularity, o.2)) =
      [(.minute1, ⟨100, 100, 100, 100, 2⟩), (.minute1, ⟨50, 50, 50, 50, 2⟩),
        (.hour1, ⟨100, 100, 50, 50, 4⟩)] ∧
    l.service.flusher.stats = ⟨2, 1⟩ ∧
    l.Complete plainConfig.aggregation.granularities (.refusing "full" (· == .hour1)) := by
  let moves := openingMoves ++ arrivalMoves (quotePayload "100" "10") ++ [.dispatch 0 .epoch] ++
    arrivalMoves (quotePayload "50" "70") ++ closingMoves ++
    [.dispatch 0 .epoch, .write, .closeAll, .write, .closeEngine, .write, .returnStop]
  have h : (outcome? plainConfig (.refusing "full" (· == .hour1)) moves).map (fun l =>
        (l.stage, (emittedIn l.trace).map ClosedBar.tickCount,
          l.service.flusher.sink.offered.map (fun o => (o.1.granularity, o.2)),
          l.service.flusher.stats)) =
      some (.returned, [1, 1, 2],
        [(.minute1, ⟨100, 100, 100, 100, 2⟩), (.minute1, ⟨50, 50, 50, 50, 2⟩),
          (.hour1, ⟨100, 100, 50, 50, 4⟩)], ⟨2, 1⟩) := by decide +kernel
  obtain ⟨s, l, hnew, hrun, heq⟩ := outcome?_map_eq_some h
  simp only [Prod.mk.injEq] at heq
  obtain ⟨hreturned, hcounts, hoffered, hstats⟩ := heq
  exact ⟨s, moves, l, hnew, hrun, hreturned, hcounts, hoffered, hstats,
    run_complete hnew hrun hreturned⟩

end Ledger

end CandleFeed

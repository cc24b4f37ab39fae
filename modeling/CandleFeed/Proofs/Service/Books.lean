import CandleFeed.Proofs.Aggregation.Stretch
import CandleFeed.Proofs.Service.Trace
import CandleFeed.Proofs.Service.Workings
import CandleFeed.Proofs.Storage.Writing

/-!
# The books of a service

What is kept up by every move of a service, while it runs and while it stops.

* **`Workings.Stopping`**: how the session and the dispatcher stand, given how far the stop has
  come.
* **`Workings.Accounted`**: every payload that was queued has been dispatched or waits, and every
  bar that was emitted has been flushed or waits.
* **`Workings.Recorded`**: the engine is what its calls have made of a new one, and their ticks are
  those of the payloads that were dispatched as ticks.
* **`Workings.Finished`**: once the stop has closed all bars, no payload waits; once it has
  returned, no bar does.

Together they are **`Workings.Sound`**, and `Workings.Sound.turn` has them kept by every turn.
-/

namespace CandleFeed

namespace StopStage

/-- The client is closed before all bars are. -/
theorem clientIsClosed_of_barsAreClosed {stage : StopStage} (h : stage.barsAreClosed = true) :
    stage.clientIsClosed = true := by
  cases stage <;> first | rfl | exact h

/-- A stop is requested before the client is closed. -/
theorem isRequested_of_clientIsClosed {stage : StopStage} (h : stage.clientIsClosed = true) :
    stage.isRequested = true := by
  cases stage <;> first | rfl | exact h

/-- The engine is open as long as bars are in progress. -/
theorem engineIsOpen_of_barsAreOpen {stage : StopStage} (h : stage.barsAreClosed = false) :
    stage.engineIsClosed = false := by
  cases stage <;> first | rfl | exact h

end StopStage

namespace Workings

open StopStage

variable {gs : List Granularity} {sink : BarSink} {w w' : Workings} {stage stage' : StopStage}
  {trace happenings : List Happening}

/-- How the session and the dispatcher stand, given how far the stop has come. -/
structure Stopping (w : Workings) (stage : StopStage) : Prop where
  /-- A stop is requested once. -/
  stopped : w.stopped = stage.isRequested
  /-- Where nobody dispatches, nothing comes. -/
  attended : w.dispatcher = .running ∨ w.isDone = true ∧ w.waiting = []
  /-- The client is closed after its session has ended. -/
  done : stage.clientIsClosed = true → w.isDone = true
  /-- All bars are closed after everything was dispatched. -/
  drained : stage.barsAreClosed = true → w.waiting = []

/-- Every move keeps to the order of a stop. -/
theorem Stopping.turn (h : w.Stopping stage) (hturn : w.Turn stage w' stage' happenings) :
    w'.Stopping stage' := by
  obtain ⟨hstopped, hattended, hdone, hdrained⟩ := h
  -- a payload that waits has somebody to take it, and is taken before all bars are closed
  have htakes : ∀ p waiting, w.waiting = p :: waiting →
      w.dispatcher = .running ∧ stage.barsAreClosed = false := by
    intro p waiting hwaiting
    refine ⟨hattended.resolve_right fun hidle => ?_, Bool.eq_false_iff.mpr fun hclosed => ?_⟩
    · exact absurd (hidle.2.symm.trans hwaiting) (by simp)
    · exact absurd ((hdrained hclosed).symm.trans hwaiting) (by simp)
  cases hturn with
  | begins isDone hfresh =>
    have hearly : stage.clientIsClosed = false := Bool.eq_false_iff.mpr fun hclosed => by
      rw [hfresh, isRequested_of_clientIsClosed hclosed] at hstopped
      exact absurd hstopped (by simp)
    exact ⟨hstopped, Or.inl rfl, fun hclosed => absurd hclosed (by simp [hearly]), hdrained⟩
  | goesOn isDone payloads hgoes =>
    have hearly : stage.clientIsClosed = false := Bool.eq_false_iff.mpr fun hclosed =>
      absurd (hdone hclosed) (by simp [hgoes])
    refine ⟨hstopped, Or.inl ?_, fun hclosed => absurd hclosed (by simp [hearly]),
      fun hclosed => ?_⟩
    · exact hattended.resolve_right fun hidle => absurd hidle.1 (by simp [hgoes])
    · exact absurd (clientIsClosed_of_barsAreClosed hclosed) (by simp [hearly])
  | takes p waiting _ hwaiting =>
    obtain ⟨hrunning, hearly⟩ := htakes p waiting hwaiting
    exact ⟨hstopped, Or.inl hrunning, hdone, fun hclosed => absurd hclosed (by simp [hearly])⟩
  | ticks p waiting _ _ hwaiting =>
    obtain ⟨hrunning, hearly⟩ := htakes p waiting hwaiting
    exact ⟨hstopped, Or.inl hrunning, hdone, fun hclosed => absurd hclosed (by simp [hearly])⟩
  | requests _ => exact ⟨rfl, hattended, by simp [clientIsClosed], by simp [barsAreClosed]⟩
  | closesClient hstage hover =>
    subst hstage
    exact ⟨hstopped, hattended, fun _ => hover, by simp [barsAreClosed]⟩
  | closesAll hstage hquiet =>
    subst hstage
    refine ⟨hstopped, hattended, fun _ => hdone rfl, fun _ => ?_⟩
    exact hquiet.elim (fun hnot => (hattended.resolve_left hnot).2) id
  | closesEngine hstage =>
    subst hstage
    exact ⟨hstopped, hattended, fun _ => hdone rfl, fun _ => hdrained rfl⟩
  | returns hstage _ =>
    subst hstage
    exact ⟨hstopped, hattended, fun _ => hdone rfl, fun _ => hdrained rfl⟩
  | rests => exact ⟨hstopped, hattended, hdone, hdrained⟩
  | removes _ => exact ⟨hstopped, hattended, hdone, hdrained⟩
  | writes _ _ _ => exact ⟨hstopped, hattended, hdone, hdrained⟩

/-- What was queued was dispatched or waits, and what was emitted was flushed or waits. -/
structure Accounted (sink : BarSink) (w : Workings) (trace : List Happening) : Prop where
  /-- Payloads are dispatched in the order in which they were queued. -/
  payloads : queuedIn trace = (dispatchedIn trace).map Prod.fst ++ w.waiting
  /-- Bars are flushed in the order in which they were emitted, each once. -/
  bars : ∃ bars, emittedIn trace = bars ++ w.bars ∧
    w.flusher = ((Flusher.start sink).flush bars).1

/-- A move takes from the queues what it adds to the account. -/
theorem Turn.balance (h : w.Turn stage w' stage' happenings) :
    w.waiting ++ queuedIn happenings = (dispatchedIn happenings).map Prod.fst ++ w'.waiting ∧
      ∃ written, w.bars ++ emittedIn happenings = written ++ w'.bars ∧
        w'.flusher = (w.flusher.flush written).1 := by
  cases h with
  | goesOn isDone payloads _ =>
    obtain ⟨hqueued, hdispatched, -, hemitted, -⟩ := projections_map_queued payloads
    rw [hqueued, hdispatched, hemitted]
    exact ⟨rfl, [], List.append_nil _, rfl⟩
  | takes p waiting outcome hwaiting _ =>
    exact ⟨by rw [hwaiting]; exact List.append_nil _, [], List.append_nil _, rfl⟩
  | ticks p waiting quote m hwaiting _ =>
    exact ⟨by rw [hwaiting]; exact List.append_nil _, [], by simp [emittedIn, callsIn,
      Happening.called?, List.filterMap_cons], rfl⟩
  | removes i =>
    exact ⟨List.append_nil _, [], by simp [emittedIn, callsIn, Happening.called?], rfl⟩
  | closesAll _ _ =>
    exact ⟨List.append_nil _, [], by simp [emittedIn, callsIn, Happening.called?], rfl⟩
  | writes bar bars hbars =>
    exact ⟨List.append_nil _, [bar], by rw [hbars]; exact List.append_nil _, rfl⟩
  | rests => exact ⟨List.append_nil _, [], List.append_nil _, rfl⟩
  | begins _ _ => exact ⟨List.append_nil _, [], List.append_nil _, rfl⟩
  | requests _ => exact ⟨List.append_nil _, [], List.append_nil _, rfl⟩
  | closesClient _ _ => exact ⟨List.append_nil _, [], List.append_nil _, rfl⟩
  | closesEngine _ => exact ⟨List.append_nil _, [], List.append_nil _, rfl⟩
  | returns _ _ => exact ⟨List.append_nil _, [], List.append_nil _, rfl⟩

/-- Every move keeps account of payloads and bars. -/
theorem Accounted.turn (h : w.Accounted sink trace) (hturn : w.Turn stage w' stage' happenings) :
    w'.Accounted sink (trace ++ happenings) := by
  obtain ⟨hpayloads, bars, hemitted, hflusher⟩ := h
  obtain ⟨hbalance, written, hwritten, hflusher'⟩ := hturn.balance
  refine ⟨?_, bars ++ written, ?_, ?_⟩
  · rw [queuedIn_append, hpayloads, List.append_assoc, hbalance, dispatchedIn_append,
      List.map_append, List.append_assoc]
  · rw [emittedIn_append, hemitted, List.append_assoc, hwritten, List.append_assoc]
  · rw [hflusher', hflusher, Flusher.flush_append]

/-- The engine is what its calls have made of a new one. -/
structure Recorded (gs : List Granularity) (w : Workings) (stage : StopStage)
    (trace : List Happening) : Prop where
  /-- The calls are a run, apart from the engine's being closed. -/
  run : ∃ e, (Engine.new gs).run ((callsIn trace).map Prod.fst) =
      some (e, (callsIn trace).map Prod.snd) ∧
    w.engine = if stage.engineIsClosed then e.close else e
  /-- Their ticks are those of the payloads that were dispatched as ticks. -/
  ticks : addedTicks ((callsIn trace).map Prod.fst) = acceptedIn trace
  /-- There are no builders after all bars were closed. -/
  idle : stage.barsAreClosed = true → w.engine.builders = .empty
  /-- Only the stop closes all bars. -/
  flushed : .flush ∈ (callsIn trace).map Prod.fst → stage.barsAreClosed = true
  /-- No tick is added after that. -/
  silent : ((callsIn trace).map Prod.fst).Pairwise fun c c' => c = .flush → c'.tick? = none

/-- A move without a call leaves the record as it is. -/
theorem Recorded.quiet (h : w.Recorded gs stage trace) (hengine : w'.engine = w.engine)
    (hclosed : stage'.engineIsClosed = stage.engineIsClosed)
    (hbars : stage'.barsAreClosed = stage.barsAreClosed) (hcalls : callsIn happenings = [])
    (haccepted : acceptedIn happenings = []) : w'.Recorded gs stage' (trace ++ happenings) := by
  obtain ⟨hrun, hticks, hidle, hflushed, hsilent⟩ := h
  have hsame : callsIn (trace ++ happenings) = callsIn trace := by
    rw [callsIn_append, hcalls, List.append_nil]
  refine ⟨?_, ?_, ?_, ?_, ?_⟩
  · rw [hsame, hengine, hclosed]
    exact hrun
  · rw [hsame, acceptedIn_append, haccepted, List.append_nil]
    exact hticks
  · rw [hbars, hengine]
    exact hidle
  · rw [hsame, hbars]
    exact hflushed
  · rw [hsame]
    exact hsilent

/-- A call goes on with the run, as long as bars are in progress. -/
theorem Recorded.call (h : w.Recorded gs stage trace) (hopen : stage.barsAreClosed = false)
    {c : EngineCall} {m : Emission} (hperform : w.engine.perform c = some m)
    (hengine : w'.engine = m.engine) (hopen' : stage'.engineIsClosed = false)
    (hidle : stage'.barsAreClosed = true → m.engine.builders = .empty)
    (hflushed : c = .flush → stage'.barsAreClosed = true)
    (hcalls : callsIn happenings = [(c, m.delivered)])
    (haccepted : acceptedIn happenings = c.tick?.toList) :
    w'.Recorded gs stage' (trace ++ happenings) := by
  obtain ⟨⟨e, hrun, heq⟩, hticks, -, hflushed', hsilent⟩ := h
  rw [engineIsOpen_of_barsAreOpen hopen] at heq
  obtain rfl : w.engine = e := heq
  have hnotFlush : .flush ∉ (callsIn trace).map Prod.fst := fun hmem =>
    absurd (hflushed' hmem) (by simp [hopen])
  have hfst : (callsIn (trace ++ happenings)).map Prod.fst =
      (callsIn trace).map Prod.fst ++ [c] := by
    rw [callsIn_append, hcalls, List.map_append]
    rfl
  refine ⟨⟨m.engine, ?_, ?_⟩, ?_, ?_, ?_, ?_⟩
  · rw [hfst, callsIn_append, hcalls, List.map_append]
    exact Engine.run_concat hrun hperform
  · rw [hengine, hopen']
    rfl
  · rw [hfst, acceptedIn_append, haccepted, addedTicks_append, hticks]
    cases c <;> rfl
  · rw [hengine]
    exact hidle
  · rw [hfst, List.mem_append, List.mem_singleton]
    exact fun hmem => hflushed (hmem.resolve_left hnotFlush).symm
  · rw [hfst, List.pairwise_append]
    exact ⟨hsilent, List.pairwise_singleton _ _,
      fun c' hc' _ _ heq => absurd (heq ▸ hc') hnotFlush⟩

/-- Where there are no builders, closing those of an instrument changes nothing. -/
theorem Recorded.removeIdle (h : w.Recorded gs stage trace) (hclosed : stage.barsAreClosed = true)
    (i : Instrument) (hengine : w'.engine = (w.engine.remove i).engine) :
    w'.Recorded gs stage
      (trace ++ [.called (.remove i) (w.engine.remove i).delivered]) := by
  obtain ⟨⟨e, hrun, heq⟩, hticks, hidle, -, hsilent⟩ := h
  replace hidle := hidle hclosed
  have hempty : e.builders = .empty := by
    rw [heq] at hidle
    split at hidle <;> exact hidle
  obtain ⟨hsame, hnone⟩ := Engine.remove_of_empty hidle i
  obtain ⟨hsame', hnone'⟩ := Engine.remove_of_empty hempty i
  have hconcat := Engine.run_concat hrun (show e.perform (.remove i) = some (e.remove i) from rfl)
  rw [hsame', hnone'] at hconcat
  rw [hsame] at hengine
  rw [hnone]
  have hfst : (callsIn (trace ++ [.called (.remove i) []])).map Prod.fst =
      (callsIn trace).map Prod.fst ++ [.remove i] := by
    rw [callsIn_append, List.map_append]
    rfl
  refine ⟨⟨e, ?_, hengine.trans heq⟩, ?_, fun _ => by rw [hengine]; exact hidle,
    fun _ => hclosed, ?_⟩
  · rw [hfst, callsIn_append, List.map_append]
    exact hconcat
  · rw [hfst, addedTicks_append, acceptedIn_append, hticks]
    rfl
  · rw [hfst, List.pairwise_append]
    refine ⟨hsilent, List.pairwise_singleton _ _, fun c _ c' hc' _ => ?_⟩
    rw [List.mem_singleton.mp hc']
    rfl

/-- Every move keeps the record of the engine's calls. -/
theorem Recorded.turn (h : w.Recorded gs stage trace) (hstopping : w.Stopping stage)
    (hturn : w.Turn stage w' stage' happenings) : w'.Recorded gs stage' (trace ++ happenings) := by
  cases hturn with
  | rests => exact h.quiet rfl rfl rfl rfl rfl
  | begins _ _ => exact h.quiet rfl rfl rfl rfl rfl
  | goesOn _ payloads _ =>
    obtain ⟨-, -, hcalls, -, haccepted⟩ := projections_map_queued payloads
    exact h.quiet rfl rfl rfl hcalls haccepted
  | takes p waiting outcome _ houtcome =>
    exact h.quiet rfl rfl rfl rfl (by
      simp [acceptedIn, dispatchedIn, Happening.dispatched?, houtcome])
  | ticks p waiting quote m hwaiting hperform =>
    have hopen : stage.barsAreClosed = false := Bool.eq_false_iff.mpr fun hclosed =>
      absurd ((hstopping.drained hclosed).symm.trans hwaiting) (by simp)
    exact h.call hopen hperform rfl (engineIsOpen_of_barsAreOpen hopen)
      (fun hclosed => absurd hclosed (by simp [hopen])) (by simp) rfl rfl
  | removes i =>
    cases hopen : stage.barsAreClosed with
    | true => exact h.removeIdle hopen i rfl
    | false =>
      exact h.call hopen (c := .remove i) rfl rfl (engineIsOpen_of_barsAreOpen hopen)
        (fun hclosed => absurd hclosed (by simp [hopen])) (by simp) rfl rfl
  | writes _ _ _ => exact h.quiet rfl rfl rfl rfl rfl
  | requests hfresh =>
    have hrunning : stage = .running := by
      have hstopped := hstopping.stopped
      rw [hfresh] at hstopped
      cases stage <;> first | rfl | exact absurd hstopped (by simp [isRequested])
    subst hrunning
    exact h.quiet rfl rfl rfl rfl rfl
  | closesClient hstage _ =>
    subst hstage
    exact h.quiet rfl rfl rfl rfl rfl
  | closesAll hstage _ =>
    subst hstage
    exact h.call rfl (c := .flush) rfl rfl rfl (fun _ => rfl) (fun _ => rfl) rfl rfl
  | closesEngine hstage =>
    subst hstage
    obtain ⟨⟨e, hrun, heq⟩, hticks, hidle, -, hsilent⟩ := h
    rw [List.append_nil]
    exact ⟨⟨e, hrun, congrArg Engine.close heq⟩, hticks, fun _ => hidle rfl, fun _ => rfl, hsilent⟩
  | returns hstage _ =>
    subst hstage
    exact h.quiet rfl rfl rfl rfl rfl

/-- What holds once all bars are closed, and once the stop has returned. -/
structure Finished (w : Workings) (stage : StopStage) (trace : List Happening) : Prop where
  /-- Everything that was ever queued was dispatched before all bars were closed. -/
  flush : stage.barsAreClosed = true → ∃ before emitted after,
    trace = before ++ .called .flush emitted :: after ∧
      queuedIn before = (dispatchedIn before).map Prod.fst ∧
      queuedIn after = [] ∧ dispatchedIn after = []
  /-- No bar waits. -/
  written : stage = .returned → w.bars = []

/-- Once all bars are closed, nothing is queued or dispatched. -/
theorem Turn.silent (h : w.Turn stage w' stage' happenings) (hstopping : w.Stopping stage)
    (hclosed : stage.barsAreClosed = true) :
    queuedIn happenings = [] ∧ dispatchedIn happenings = [] := by
  cases h with
  | goesOn isDone payloads hdone =>
    have hover := hstopping.done (clientIsClosed_of_barsAreClosed hclosed)
    exact absurd hover (by simp [hdone])
  | takes p waiting _ hwaiting =>
    exact absurd ((hstopping.drained hclosed).symm.trans hwaiting) (by simp)
  | ticks p waiting _ _ hwaiting =>
    exact absurd ((hstopping.drained hclosed).symm.trans hwaiting) (by simp)
  | _ => exact ⟨rfl, rfl⟩

/-- Every move keeps what holds at the end. -/
theorem Finished.turn (h : w.Finished stage trace) (hstopping : w.Stopping stage)
    (haccounted : w.Accounted sink trace) (hrecorded : w.Recorded gs stage trace)
    (hturn : w.Turn stage w' stage' happenings) : w'.Finished stage' (trace ++ happenings) := by
  have hflush : stage.barsAreClosed = true → ∃ before emitted after,
      trace ++ happenings = before ++ .called .flush emitted :: after ∧
        queuedIn before = (dispatchedIn before).map Prod.fst ∧
        queuedIn after = [] ∧ dispatchedIn after = [] := by
    intro hclosed
    obtain ⟨before, emitted, after, rfl, hbefore, hqueued, hdispatched⟩ := h.flush hclosed
    obtain ⟨hqueued', hdispatched'⟩ := hturn.silent hstopping hclosed
    refine ⟨before, emitted, after ++ happenings, by simp, hbefore, ?_, ?_⟩
    · rw [queuedIn_append, hqueued, hqueued']
      rfl
    · rw [dispatchedIn_append, hdispatched, hdispatched']
      rfl
  have hdrained := (hstopping.turn hturn).drained
  cases hturn with
  | rests => exact ⟨hflush, h.written⟩
  | begins _ _ => exact ⟨hflush, h.written⟩
  | goesOn _ _ _ => exact ⟨hflush, h.written⟩
  | takes _ _ _ _ _ => exact ⟨hflush, h.written⟩
  | ticks p waiting quote m hwaiting _ =>
    refine ⟨hflush, fun hreturned => ?_⟩
    subst hreturned
    exact absurd ((hstopping.drained rfl).symm.trans hwaiting) (by simp)
  | removes i =>
    refine ⟨hflush, fun hreturned => ?_⟩
    subst hreturned
    show w.bars ++ (w.engine.remove i).delivered = []
    rw [h.written rfl, (Engine.remove_of_empty (hrecorded.idle rfl) i).2]
    rfl
  | writes bar bars hbars =>
    refine ⟨hflush, fun hreturned => ?_⟩
    exact absurd ((h.written hreturned).symm.trans hbars) (by simp)
  | requests _ => exact ⟨fun hclosed => absurd hclosed (by simp [barsAreClosed]), by simp⟩
  | closesClient _ _ => exact ⟨fun hclosed => absurd hclosed (by simp [barsAreClosed]), by simp⟩
  | closesAll hstage _ =>
    refine ⟨fun _ => ⟨trace, _, [], rfl, ?_, rfl, rfl⟩, by simp⟩
    rw [haccounted.payloads, show w.waiting = [] from hdrained rfl, List.append_nil]
  | closesEngine hstage =>
    subst hstage
    exact ⟨fun _ => hflush rfl, by simp⟩
  | returns hstage hbars =>
    subst hstage
    exact ⟨fun _ => hflush rfl, fun _ => hbars⟩

/-- Everything that is kept up while a service runs and stops. -/
structure Sound (gs : List Granularity) (sink : BarSink) (w : Workings) (stage : StopStage)
    (trace : List Happening) : Prop where
  stopping : w.Stopping stage
  accounted : w.Accounted sink trace
  recorded : w.Recorded gs stage trace
  finished : w.Finished stage trace

/-- Every move keeps it all. -/
theorem Sound.turn (h : w.Sound gs sink stage trace) (hturn : w.Turn stage w' stage' happenings) :
    w'.Sound gs sink stage' (trace ++ happenings) where
  stopping := h.stopping.turn hturn
  accounted := h.accounted.turn hturn
  recorded := h.recorded.turn h.stopping hturn
  finished := h.finished.turn h.stopping h.accounted h.recorded hturn

end Workings

end CandleFeed

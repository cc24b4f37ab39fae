import CandleFeed.Proofs.Dispatch.TickPath
import CandleFeed.Proofs.Service.Moves

/-!
# What a move does to the workings of a service

Bars and payloads do not care for most of what a service is.  What they do care for are its
**`Workings`**: the engine, the queues, the dispatcher and the flusher, and of the session only
whether it is over.  **`Workings.Turn`** says everything that a move can do to these, and
`Ledger.move_turn` is the one place that goes through the moves.
-/

namespace CandleFeed

/-- What bars and payloads care for in a service. -/
structure Workings where
  /-- The engine. -/
  engine : Engine
  /-- The session is over, or has not begun. -/
  isDone : Bool
  /-- The dispatcher. -/
  dispatcher : DispatcherState
  /-- The payloads that wait for the dispatcher. -/
  waiting : List SessionPayload
  /-- The bars that wait for the flusher. -/
  bars : List ClosedBar
  /-- The flusher. -/
  flusher : Flusher
  /-- A stop has been requested. -/
  stopped : Bool

/-- The workings of a service. -/
def Service.workings (s : Service) : Workings :=
  ⟨s.engine, s.client.isDone, s.dispatcher, s.intake.queue.waiting, s.bars, s.flusher, s.stopped⟩

/-- **What a move does to the workings of a service**, from one stage of its stop to another, and
what is recorded. -/
inductive Workings.Turn (w : Workings) (stage : StopStage) :
    Workings → StopStage → List Happening → Prop
  /-- Nothing. -/
  | rests : Turn w stage w stage []
  /-- The dispatcher begins to take payloads, and perhaps the session begins. -/
  | begins (isDone : Bool) (hstopped : w.stopped = false) :
      Turn w stage { w with isDone, dispatcher := .running } stage []
  /-- The session goes a step, and payloads are queued. -/
  | goesOn (isDone : Bool) (payloads : List SessionPayload) (hdone : w.isDone = false) :
      Turn w stage { w with isDone, waiting := w.waiting ++ payloads } stage
        (payloads.map .queued)
  /-- The dispatcher takes a payload that does not reach the engine. -/
  | takes (p : SessionPayload) (waiting : List SessionPayload) (outcome : Dispatched)
      (hwaiting : w.waiting = p :: waiting) (houtcome : outcome.tick? = none) :
      Turn w stage { w with waiting } stage [.dispatched p outcome]
  /-- The dispatcher takes a payload whose tick the engine takes. -/
  | ticks (p : SessionPayload) (waiting : List SessionPayload) (quote : Quote) (m : Emission)
      (hwaiting : w.waiting = p :: waiting)
      (hperform : w.engine.perform (.tick quote.tick) = some m) :
      Turn w stage { w with waiting, engine := m.engine, bars := w.bars ++ m.delivered } stage
        [.dispatched p (.tick quote), .called (.tick quote.tick) m.delivered]
  /-- The bars in progress of an instrument are closed. -/
  | removes (i : Instrument) :
      Turn w stage
        { w with
          engine := (w.engine.remove i).engine
          bars := w.bars ++ (w.engine.remove i).delivered } stage
        [.called (.remove i) (w.engine.remove i).delivered]
  /-- The flusher writes a bar. -/
  | writes (bar : ClosedBar) (bars : List ClosedBar) (hbars : w.bars = bar :: bars) :
      Turn w stage { w with bars, flusher := (w.flusher.flushOne bar).1 } stage []
  /-- A stop is requested. -/
  | requests (hstopped : w.stopped = false) : Turn w stage { w with stopped := true } .requested []
  /-- The client is closed. -/
  | closesClient (hstage : stage = .requested) (hdone : w.isDone = true) :
      Turn w stage w .clientClosed []
  /-- All bars in progress are closed. -/
  | closesAll (hstage : stage = .clientClosed)
      (hdrained : w.dispatcher ≠ .running ∨ w.waiting = []) :
      Turn w stage
        { w with
          engine := w.engine.flushAll.engine
          bars := w.bars ++ w.engine.flushAll.delivered } .barsClosed
        [.called .flush w.engine.flushAll.delivered]
  /-- The engine is closed. -/
  | closesEngine (hstage : stage = .barsClosed) :
      Turn w stage { w with engine := w.engine.close } .engineClosed []
  /-- The stop returns. -/
  | returns (hstage : stage = .engineClosed) (hbars : w.bars = []) : Turn w stage w .returned []

namespace Service

/-- A client of the same phase makes no difference to the workings. -/
theorem setClient_workings (s : Service) {c : Client} (h : c.phase = s.client.phase) :
    (s.setClient c).workings = s.workings := by
  unfold workings
  rw [show (s.setClient c).client.isDone = s.client.isDone from Client.isDone_of_phase h]
  rfl

/-- Subscribing instruments makes no difference to the workings. -/
theorem subscribeAll_workings (s : Service) (is : List Instrument) :
    (s.subscribeAll is).workings = s.workings := by
  induction is generalizing s with
  | nil => rfl
  | cons i is ih =>
    exact (ih (s.subscribe i).1).trans (s.setClient_workings (s.client.subscribe_phase i))

/-- A start has the dispatcher take payloads, or does nothing. -/
theorem start_turn (s : Service) (stage : StopStage) :
    s.workings.Turn stage s.start.1.workings stage [] := by
  unfold start
  by_cases hstopped : s.stopped = true
  · rw [if_pos hstopped]
    exact .rests
  · rw [if_neg hstopped]
    by_cases hbegun : s.begun = true
    · rw [if_pos hbegun]
      exact .rests
    · rw [if_neg hbegun]
      simp only
      split
      · exact .rests
      · have hall := subscribeAll_workings
          { s with begun := true, dispatcher := .running } s.instruments
        generalize subscribeAll _ s.instruments = s' at hall ⊢
        have hbegins : ∀ isDone, s.workings.Turn stage { s'.workings with isDone } stage [] := by
          intro isDone
          rw [hall]
          exact .begins isDone (Bool.not_eq_true _ ▸ hstopped)
        cases s'.client.connect with
        | ok client => exact hbegins client.isDone
        | error fault => exact hbegins s'.client.isDone

/-- A step of the session queues what the client hands over. -/
theorem session_turn {s : Service} {now : Nat} {e : Event} {intake : Intake}
    {effects : List Effect} (h : s.intake.step now e = some (intake, effects)) (stage : StopStage) :
    s.workings.Turn stage { s with intake }.workings stage
      ((effects.filterMap Effect.queued?).map .queued) := by
  unfold Intake.step at h
  split at h
  · obtain ⟨⟨client, effects'⟩, hstep, heq⟩ := Option.map_eq_some_iff.mp h
    obtain ⟨rfl, rfl⟩ := Prod.mk.inj heq
    have hdone : s.client.isDone = false := by
      by_contra hnot
      have hnone := Client.step_of_isDone (Bool.not_eq_false _ ▸ hnot) now e
      exact absurd (hstep.symm.trans hnone) (by simp)
    have hgoes := @Workings.Turn.goesOn s.workings stage client.isDone
      (effects'.filterMap Effect.queued?) hdone
    unfold workings
    simp only [Intake.foldl_receive_waiting]
    exact hgoes
  · exact absurd h (by simp)

/-- The bars that wait after others came are the others. -/
theorem newBars_append {s s' : Service} {bars : List ClosedBar} (h : s'.bars = s.bars ++ bars) :
    s.newBars s' = bars := by
  unfold newBars
  rw [h, List.drop_left]

/-- What the engine emits is what comes to wait. -/
theorem newBars_emit (s : Service) (m : Emission) : s.newBars (s.emit m) = m.delivered :=
  newBars_append rfl

/-- The dispatcher takes the oldest payload, and the engine takes its tick if it is one. -/
theorem dispatch_turn {s : Service} {p : SessionPayload} {waiting : List SessionPayload}
    (hwaiting : s.intake.queue.waiting = p :: waiting) {now : Nat} {receivedAt : Timestamp}
    {step : ServiceStep Dispatched} (hstep : s.dispatchNext now receivedAt = some step)
    (hne : step.result ≠ .brokenOff) (stage : StopStage) :
    s.workings.Turn stage step.service.workings stage
      (.dispatched p step.result :: step.result.tick?.toList.map fun quote =>
        .called (.tick quote.tick) (s.newBars step.service)) := by
  unfold dispatchNext at hstep
  split at hstep
  · have hpop : s.intake.pop? = some (p, { s.intake with
        queue := { s.intake.queue with waiting } }) := by
      unfold Intake.pop? PayloadQueue.pop?
      rw [hwaiting]
      rfl
    rw [hpop, Option.map_some] at hstep
    obtain rfl := Option.some.inj hstep
    have heffect := s.path.dispatch_engineEffect now receivedAt s.registry p.session p.payload
    change (s.path.dispatch now receivedAt s.registry p.session p.payload).result ≠ .brokenOff
      at hne
    simp only [if_neg hne]
    generalize s.path.dispatch now receivedAt s.registry p.session p.payload = taken
      at heffect hne ⊢
    cases heffect with
    | tick quote m hresult _ hperform hengine hdelivered =>
      have hticks := @Workings.Turn.ticks s.workings stage p waiting quote m hwaiting hperform
      simp only [hresult, Dispatched.tick?, Option.toList_some, List.map_cons, List.map_nil]
      rw [newBars_append rfl, hdelivered]
      unfold workings engine
      simp only [hengine]
      exact hticks
    | nothing hresult hengine hdelivered =>
      have houtcome : taken.result.tick? = none := by
        cases hr : taken.result with
        | tick quote => exact absurd hr (hresult quote)
        | _ => rfl
      have htakes := @Workings.Turn.takes s.workings stage p waiting taken.result hwaiting houtcome
      rw [houtcome]
      unfold workings engine
      simp only [hengine, hdelivered, List.append_nil]
      exact htakes
    | breaks hresult => exact absurd hresult hne
  · exact absurd hstep (by simp)

end Service

namespace Ledger

/-- **Every move is a turn of the workings**, and what is recorded is added to the trace. -/
theorem move_turn {l l' : Ledger} {m : ServiceMove} (h : l.move m = some l') :
    ∃ happenings, l'.trace = l.trace ++ happenings ∧
      l.service.workings.Turn l.stage l'.service.workings l'.stage happenings := by
  have hkeep : ∀ s : Service, s.workings = l.service.workings → some (l.keep s) = some l' →
      ∃ happenings, l'.trace = l.trace ++ happenings ∧
        l.service.workings.Turn l.stage l'.service.workings l'.stage happenings := by
    intro s hs heq
    obtain rfl := Option.some.inj heq
    refine ⟨[], (List.append_nil _).symm, ?_⟩
    rw [show (l.keep s).service.workings = l.service.workings from hs]
    exact .rests
  cases m with
  | start =>
    obtain rfl := Option.some.inj h
    exact ⟨[], (List.append_nil _).symm, l.service.start_turn l.stage⟩
  | session now e =>
    obtain ⟨⟨intake, effects⟩, hstep, rfl⟩ := Option.map_eq_some_iff.mp h
    exact ⟨_, rfl, Service.session_turn hstep l.stage⟩
  | dispatch now receivedAt =>
    obtain ⟨p, hp, h⟩ := Option.bind_eq_some_iff.mp h
    obtain ⟨waiting, hwaiting⟩ := List.head?_eq_some_iff.mp hp
    obtain ⟨step, hstep, h⟩ := Option.bind_eq_some_iff.mp h
    split at h
    · exact absurd h (by simp)
    · rename_i hne
      obtain rfl := Option.some.inj h
      exact ⟨_, rfl, Service.dispatch_turn hwaiting hstep hne l.stage⟩
  | write =>
    obtain ⟨step, hstep, rfl⟩ := Option.map_eq_some_iff.mp h
    unfold Service.flushNext at hstep
    split at hstep
    · exact absurd hstep (by simp)
    · rename_i bar bars hbars
      obtain rfl := Option.some.inj hstep
      exact ⟨[], (List.append_nil _).symm, .writes bar bars hbars⟩
  | subscribe i =>
    exact hkeep _ (l.service.setClient_workings (l.service.client.subscribe_phase i)) h
  | leave i =>
    exact hkeep _ (l.service.setClient_workings (l.service.client.unsubscribe_phase i)) h
  | closeBars i =>
    obtain rfl := Option.some.inj h
    refine ⟨_, rfl, ?_⟩
    rw [Service.closeBars, Service.newBars_emit]
    exact .removes i
  | forget i =>
    refine hkeep _ ?_ h
    unfold Service.forget
    simp only
    split <;> rfl
  | latest now i => exact hkeep (l.service.latest now i).1 rfl h
  | history r => exact hkeep (l.service.history r).1 rfl h
  | requestStop =>
    obtain ⟨s, hs, rfl⟩ := Option.map_eq_some_iff.mp h
    unfold Service.requestStop at hs
    split at hs
    · exact absurd hs (by simp)
    · rename_i hstopped
      obtain rfl := Option.some.inj hs
      exact ⟨[], (List.append_nil _).symm, .requests (Bool.not_eq_true _ ▸ hstopped)⟩
  | closeClient =>
    simp only [move] at h
    split at h
    · rename_i hguard
      obtain rfl := Option.some.inj h
      refine ⟨[], (List.append_nil _).symm, ?_⟩
      have hsame := l.service.setClient_workings l.service.client.close_phase
      rw [show ({ l.keep l.service.closeClient with stage := .clientClosed } :
        Ledger).service.workings = l.service.workings from hsame]
      exact .closesClient hguard.1 hguard.2
    · exact absurd h (by simp)
  | closeAll =>
    simp only [move] at h
    split at h
    · rename_i hguard
      obtain rfl := Option.some.inj h
      refine ⟨_, rfl, ?_⟩
      rw [Service.closeAll, Service.newBars_emit]
      refine .closesAll hguard.1 ?_
      obtain ⟨-, hdrained⟩ := hguard
      simp only [Service.isDrained, Bool.and_eq_true, Bool.or_eq_true, bne_iff_ne,
        List.isEmpty_iff] at hdrained
      exact hdrained.2
    · exact absurd h (by simp)
  | closeEngine =>
    simp only [move] at h
    split at h
    · rename_i hguard
      obtain rfl := Option.some.inj h
      exact ⟨[], (List.append_nil _).symm, .closesEngine hguard⟩
    · exact absurd h (by simp)
  | returnStop =>
    simp only [move] at h
    split at h
    · rename_i hguard
      obtain rfl := Option.some.inj h
      exact ⟨[], (List.append_nil _).symm, .returns hguard.1 hguard.2⟩
    · exact absurd h (by simp)

end Ledger

end CandleFeed

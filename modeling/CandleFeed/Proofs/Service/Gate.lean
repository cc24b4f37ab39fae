import CandleFeed.Proofs.Aggregation.Entries
import CandleFeed.Proofs.Service.Conservation
import CandleFeed.Proofs.Service.Standing

/-!
# Late ticks open no bars

A tick reaches the engine only while the registry is locked and its instrument is in it, and an
instrument leaves the registry before its bars in progress are closed.  So at any time, however the
sections of a service alternate, an instrument with an entry in the engine is subscribed, or an
unsubscription of it has its bars still to close: it is **`Standing.Guarded`**.

An instrument that is **`Standing.Gone`** is neither.  It stays so until somebody subscribes it, and
meanwhile no payload opens a bar of it, whenever it was queued and whatever session it came on
(**`Interplay.run_gated`**).
-/

namespace CandleFeed

namespace Standing

variable {w w' : Standing} {sec : ServiceSection} {i : Instrument}

/-- Every instrument with an entry in the engine is subscribed, or an unsubscription of it has its
bars in progress still to close. -/
def Guarded (w : Standing) : Prop :=
  ∀ i ∈ w.engine.active, i ∈ w.registry.order ∨ ⟨i, false⟩ ∈ w.departures

/-- The instrument is not subscribed, and no unsubscription of it has its bars still to close. -/
structure Gone (w : Standing) (i : Instrument) : Prop where
  unsubscribed : i ∉ w.registry.order
  closed : ⟨i, false⟩ ∉ w.departures

/-- The bars that were emitted of an instrument. -/
def emittedOf (w : Standing) (i : Instrument) : List ClosedBar :=
  w.emitted.filter fun b => b.instrument = i

/-- Entries that come or go with their subscription leave the rest guarded. -/
theorem Guarded.of_active {engine : Engine} (h : w.Guarded)
    (hactive : ∀ j ∈ engine.active, j ∈ w.registry.order ∨ j ∈ w.engine.active) :
    ∀ j ∈ engine.active, j ∈ w.registry.order ∨ ⟨j, false⟩ ∈ w.departures := by
  intro j hj
  rcases hactive j hj with hregistry | hentry
  · exact Or.inl hregistry
  · exact h j hentry

/-- **Every section keeps the entries guarded.** -/
theorem Guarded.turn (h : w.Guarded) (hturn : w.Turn sec w') : w'.Guarded := by
  cases hturn with
  | rests => exact h
  | turnsTo => exact h
  | adds receivedAt quote m outcome hand hsubscribed hadd =>
    refine h.of_active fun j hj => ?_
    rw [show m = (w.engine.addTick quote.tick).1 from (congrArg Prod.fst hadd).symm] at hj
    rcases Engine.mem_active_addTick hj with rfl | hentry
    · exact Or.inl hsubscribed
    · exact Or.inr hentry
  | writesQuote => exact h
  | writesBar => exact h
  | subscribes j =>
    intro i hi
    exact (h i hi).imp_left fun hmem => Registry.mem_order_insert.mpr (Or.inr hmem)
  | leaves j =>
    intro i hi
    by_cases hij : i = j
    · exact Or.inr (hij ▸ List.mem_cons_self)
    · exact (h i hi).imp (fun hmem => Registry.mem_order_remove.mpr ⟨hij, hmem⟩)
        (List.mem_cons_of_mem _)
  | closes j =>
    intro i hi
    obtain ⟨hij, hentry⟩ := Engine.mem_active_remove.mp hi
    refine (h i hentry).imp_right fun hmem => List.mem_cons_of_mem _ ?_
    exact (List.mem_erase_of_ne (by simpa using hij)).mpr hmem
  | forgets j =>
    intro i hi
    exact (h i hi).imp_right fun hmem => (List.mem_erase_of_ne (by simp)).mpr hmem
  | asks => exact h
  | closesAll =>
    intro i hi
    rw [show _ = [] from Engine.active_flushAll w.engine] at hi
    exact absurd hi List.not_mem_nil
  | closesEngine => exact h

/-- **An instrument that is gone stays so** until it is subscribed. -/
theorem Gone.turn (h : w.Gone i) (hsec : sec ≠ .move (.subscribe i)) (hturn : w.Turn sec w') :
    w'.Gone i := by
  obtain ⟨hunsubscribed, hclosed⟩ := h
  cases hturn with
  | subscribes j =>
    refine ⟨fun hmem => ?_, hclosed⟩
    rcases Registry.mem_order_insert.mp hmem with rfl | hmem
    · exact hsec rfl
    · exact hunsubscribed hmem
  | leaves j hj =>
    refine ⟨fun hmem => hunsubscribed (Registry.mem_order_remove.mp hmem).2, fun hmem => ?_⟩
    rcases List.mem_cons.mp hmem with heq | hmem
    · rw [Departure.mk.injEq] at heq
      exact hunsubscribed (heq.1 ▸ hj)
    · exact hclosed hmem
  | closes j =>
    refine ⟨hunsubscribed, fun hmem => ?_⟩
    rcases List.mem_cons.mp hmem with heq | hmem
    · exact absurd heq (by simp)
    · exact hclosed (List.mem_of_mem_erase hmem)
  | forgets j => exact ⟨hunsubscribed, fun hmem => hclosed (List.mem_of_mem_erase hmem)⟩
  | _ => exact ⟨hunsubscribed, hclosed⟩

/-- An instrument that is gone has no entry. -/
theorem Guarded.not_mem_active (h : w.Guarded) (hgone : w.Gone i) : i ∉ w.engine.active :=
  fun hmem => (h i hmem).elim hgone.unsubscribed hgone.closed

/-- Bars of other instruments are none of an instrument's. -/
theorem filter_append_of_ne {bars more : List ClosedBar} (h : ∀ b ∈ more, b.instrument ≠ i) :
    (bars ++ more).filter (fun b => b.instrument = i) = bars.filter fun b => b.instrument = i := by
  have hnone : more.filter (fun b => b.instrument = i) = [] :=
    List.filter_eq_nil_iff.mpr fun b hb heq => h b hb (of_decide_eq_true heq)
  rw [List.filter_append, hnone, List.append_nil]

/-- **No section emits a bar of an instrument that is gone.** -/
theorem Gone.emittedOf_turn (h : w.Gone i) (hguarded : w.Guarded) (hturn : w.Turn sec w') :
    w'.emittedOf i = w.emittedOf i := by
  cases hturn with
  | adds receivedAt quote m outcome hand hsubscribed hadd =>
    refine filter_append_of_ne fun b hb heq => h.unsubscribed ?_
    rw [show m = (w.engine.addTick quote.tick).1 from (congrArg Prod.fst hadd).symm] at hb
    rw [← heq, Engine.instrument_of_mem_addTick hb]
    exact hsubscribed
  | closes j hj =>
    refine filter_append_of_ne fun b hb heq => h.closed ?_
    rw [← heq, Engine.instrument_of_mem_remove hb]
    exact hj
  | closesAll =>
    refine filter_append_of_ne fun b hb heq => hguarded.not_mem_active h ?_
    rw [← heq]
    exact Engine.mem_active_of_mem_flushAll hb
  | _ => rfl

end Standing

namespace Interplay

open Ledger (plainConfig quotePayload)

variable {config : FeedConfig} {link : CacheLink} {sink : BarSink} {source : Option HistorySource}
  {s : Service} {x y : Interplay} {sections later : List ServiceSection} {i : Instrument}

/-- A new service has no entries. -/
theorem guarded_start (hnew : Service.new config link sink source = .ok s) :
    (start s).standing.Guarded := by
  obtain ⟨instruments, rfl⟩ := Service.eq_create_of_new hnew
  intro i hi
  rw [Engine.mem_active_iff] at hi
  exact absurd hi (by simp [standing, start, Service.create, Service.engine, Service.pathOf,
    Engine.new, Table.get?_empty])

/-- Entries stay guarded through a run. -/
theorem guarded_run (hx : x.standing.Guarded) (hrun : x.run sections = some y) :
    y.standing.Guarded :=
  run_keeps (P := fun x => x.standing.Guarded) (fun _ _ _ _ h hstep => h.turn (step_turn hstep)) hx
    hrun

/-- An instrument that is gone stays so through a run in which nobody subscribes it, and no bar of
it is emitted. -/
theorem gone_run (hx : x.standing.Guarded) (hgone : x.standing.Gone i)
    (hlater : .move (.subscribe i) ∉ later) (hrun : x.run later = some y) :
    y.standing.Gone i ∧ y.standing.emittedOf i = x.standing.emittedOf i := by
  refine (run_keeps (P := fun y => y.standing.Guarded ∧ y.standing.Gone i ∧
    y.standing.emittedOf i = x.standing.emittedOf i) ?_ ⟨hx, hgone, rfl⟩ hrun).2
  rintro sec hsec y z ⟨hguarded, hgone, hemitted⟩ hstep
  have hturn := step_turn hstep
  exact ⟨hguarded.turn hturn, hgone.turn (fun heq => hlater (heq ▸ hsec)) hturn,
    (hgone.emittedOf_turn hguarded hturn).trans hemitted⟩

/-- **Late ticks open no bars**, however dispatches, subscriptions and unsubscriptions alternate.
Whatever has an entry in the engine is subscribed, or an unsubscription has taken it out of the
registry and has its bars still to close.  Of an instrument that is neither, in particular of one
whose unsubscriptions have all returned, there is no entry, and no bar is emitted, until it is
subscribed. -/
theorem run_gated (hnew : Service.new config link sink source = .ok s)
    (hrun : (start s).run sections = some x) :
    (∀ i ∈ x.service.engine.active,
      i ∈ x.service.registry.order ∨ ⟨i, false⟩ ∈ x.departures) ∧
    ∀ i, i ∉ x.service.registry.order → ⟨i, false⟩ ∉ x.departures →
      ∀ later y, .move (.subscribe i) ∉ later → x.run later = some y →
        i ∉ y.service.engine.active ∧ y.standing.emittedOf i = x.standing.emittedOf i := by
  have hguarded := guarded_run (guarded_start hnew) hrun
  refine ⟨hguarded, fun i hunsubscribed hclosed later y hlater hrun => ?_⟩
  obtain ⟨hgone, hemitted⟩ := gone_run hguarded ⟨hunsubscribed, hclosed⟩ hlater hrun
  exact ⟨(guarded_run hguarded hrun).not_mem_active hgone, hemitted⟩

/-- What comes of sections of a new service, where all of them can be made. -/
def outcome? (config : FeedConfig) (sections : List ServiceSection) : Option Interplay :=
  (Service.new config .reliable .plain none).toOption.bind fun s => (start s).run sections

/-- Where something came of more sections, there are a service that made the first of them and an
interplay that made the rest. -/
theorem outcome?_bind_eq_some {α : Type} {f : Interplay → Interplay → α} {a : α}
    (h : ((outcome? config sections).bind fun x => (x.run later).map (f x)) = some a) :
    ∃ s x y, Service.new config .reliable .plain none = .ok s ∧ (start s).run sections = some x ∧
      x.run later = some y ∧ f x y = a := by
  obtain ⟨x, hx, h⟩ := Option.bind_eq_some_iff.mp h
  obtain ⟨y, hlater, rfl⟩ := Option.map_eq_some_iff.mp h
  obtain ⟨s, hs, hrun⟩ := Option.bind_eq_some_iff.mp hx
  exact ⟨s, x, y, eq_ok_of_toOption hs, hrun, hlater, rfl⟩

/-- A start that subscribes an instrument, all steps of the session until it listens, and the
arrival of payloads. -/
def arrivalSections (i : Instrument) (payloads : List (List Char)) : List ServiceSection :=
  [.begin, .move (.subscribe i), .connect] ++ Ledger.openingMoves.tail.map .move ++
    (payloads.flatMap Ledger.arrivalMoves).map .move

/-- An instrument that is subscribed again while it is being unsubscribed, and unsubscribed once
more before the first unsubscription has closed its bars; a third tick of it waits in the queue
until both have returned, and is dropped. -/
theorem run_gated_resubscribed : ∃ i s x y later,
    Service.new plainConfig .reliable .plain none = .ok s ∧
    (start s).run (arrivalSections i
      [quotePayload "100" "10", quotePayload "50" "70", quotePayload "60" "130"] ++
      [.fetch, .judge .epoch, .move (.leave i), .writeQuote 0, .move (.subscribe i), .fetch,
        .judge .epoch, .writeQuote 0, .move (.leave i), .move (.closeBars i), .move (.closeBars i),
        .move (.forget i), .move (.forget i)]) = some x ∧
    i ∉ x.service.registry.order ∧ ⟨i, false⟩ ∉ x.departures ∧
    .move (.subscribe i) ∉ later ∧ x.run later = some y ∧
    x.service.intake.queue.waiting.length = 1 ∧ y.service.intake.queue.waiting = [] ∧
    (x.standing.emittedOf i).map ClosedBar.tickCount = [1, 1, 2] ∧
    i ∉ y.service.engine.active ∧ y.standing.emittedOf i = x.standing.emittedOf i := by
  let aapl : Instrument := ⟨"NASDAQ", "AAPL", by decide, by decide, by decide⟩
  let sections : List ServiceSection := arrivalSections aapl
    [quotePayload "100" "10", quotePayload "50" "70", quotePayload "60" "130"] ++
    [.fetch, .judge .epoch, .move (.leave aapl), .writeQuote 0, .move (.subscribe aapl), .fetch,
      .judge .epoch, .writeQuote 0, .move (.leave aapl), .move (.closeBars aapl),
      .move (.closeBars aapl), .move (.forget aapl), .move (.forget aapl)]
  have h : ((outcome? plainConfig sections).bind fun x =>
      (x.run [.fetch, .judge .epoch]).map fun y =>
        (x.service.registry.order, x.departures, x.service.intake.queue.waiting.length,
          y.service.intake.queue.waiting, (x.standing.emittedOf aapl).map ClosedBar.tickCount)) =
      some ([], [], 1, [], [1, 1, 2]) := by decide +kernel
  obtain ⟨s, x, y, hnew, hrun, hlater, heq⟩ := outcome?_bind_eq_some h
  simp only [Prod.mk.injEq] at heq
  obtain ⟨horder, hdepartures, hwaiting, hnone, hcounts⟩ := heq
  have hunsubscribed : aapl ∉ x.service.registry.order := horder ▸ List.not_mem_nil
  have hclosed : ⟨aapl, false⟩ ∉ x.departures := hdepartures ▸ List.not_mem_nil
  have hquiet : .move (.subscribe aapl) ∉ ([.fetch, .judge .epoch] : List ServiceSection) := by simp
  obtain ⟨hentry, hemitted⟩ := (run_gated hnew hrun).2 aapl hunsubscribed hclosed _ y hquiet hlater
  exact ⟨aapl, s, x, y, _, hnew, hrun, hunsubscribed, hclosed, hquiet, hlater, hwaiting, hnone,
    hcounts, hentry, hemitted⟩

end Interplay

end CandleFeed

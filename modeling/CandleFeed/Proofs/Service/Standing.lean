import CandleFeed.Proofs.Session.Changes
import CandleFeed.Proofs.Session.Moves
import CandleFeed.Proofs.Service.Sections

/-!
# What a section does to the standing of instruments

Whether an instrument may have bars, and what its latest quote is, depends on little of a service:
on the registry, the engine and the cache, on what the dispatcher has in its hand, and on the
unsubscriptions under way.  These are the **`Standing`** of its instruments.
**`Standing.Turn`** says everything that a section can do to them, and `Interplay.step_turn` is the
one place that goes through the sections.
-/

namespace CandleFeed

/-- What the bars and the latest quotes of instruments depend on. -/
structure Standing where
  /-- The subscriptions. -/
  registry : Registry
  /-- The engine. -/
  engine : Engine
  /-- The cached quotes and bars. -/
  quotes : QuoteCache
  /-- What the dispatcher has to go on with. -/
  hand : Hand
  /-- The unsubscriptions under way. -/
  departures : List Departure
  /-- The bars that the engine has emitted, in order. -/
  emitted : List ClosedBar

/-- The dispatcher has a quote to write. -/
def Hand.hasQuote : Hand → Bool
  | quote _ _ => true
  | _ => false

/-- Bars that are to be written are no quote. -/
theorem Hand.hasQuote_ofBars (bars : List OpenBar) : (Hand.ofBars bars).hasQuote = false := by
  cases bars <;> rfl

/-- The standing of the instruments of an interplay. -/
def Interplay.standing (x : Interplay) : Standing :=
  ⟨x.service.registry, x.service.engine, x.service.path.quotes, x.hand, x.departures, x.emitted⟩

/-- **What a section does to the standing of instruments.** -/
inductive Standing.Turn (w : Standing) : ServiceSection → Standing → Prop
  /-- Nothing. -/
  | rests (sec : ServiceSection) : Turn w sec w
  /-- The dispatcher goes on with something else than a quote. -/
  | turnsTo (sec : ServiceSection) (hand : Hand) (hhand : hand.hasQuote = false) :
      Turn w sec { w with hand }
  /-- The tick of a quote goes to the engine, whose instrument is subscribed; the dispatcher has the
  quote to write then, unless the tick broke off. -/
  | adds (receivedAt : Timestamp) (quote : Quote) (m : Emission) (outcome : TickOutcome)
      (hand : Hand) (hsubscribed : quote.instrument ∈ w.registry.order)
      (hadd : w.engine.addTick quote.tick = (m, outcome))
      (hhand : hand = .free ∨ ∃ current, hand = .quote quote current) :
      Turn w (.judge receivedAt)
        { w with engine := m.engine, hand, emitted := w.emitted ++ m.delivered }
  /-- The quote is written. -/
  | writesQuote (now : Nat) (quote : Quote) (current : List OpenBar) (hand : Hand)
      (hquote : w.hand = .quote quote current) (hhand : hand.hasQuote = false) :
      Turn w (.writeQuote now) { w with quotes := (w.quotes.setLatest now quote).1, hand }
  /-- A bar in progress is written. -/
  | writesBar (now : Nat) (bar : OpenBar) (hand : Hand) (hhand : hand.hasQuote = false) :
      Turn w (.writeBar now) { w with quotes := (w.quotes.setCurrent now bar).1, hand }
  /-- An instrument is subscribed. -/
  | subscribes (i : Instrument) :
      Turn w (.move (.subscribe i)) { w with registry := (w.registry.insert i).1 }
  /-- An instrument leaves the registry. -/
  | leaves (i : Instrument) (hi : i ∈ w.registry.order) :
      Turn w (.move (.leave i))
        { w with
          registry := (w.registry.remove i).1
          departures := ⟨i, false⟩ :: w.departures }
  /-- The bars in progress of an instrument that has left are closed. -/
  | closes (i : Instrument) (hi : ⟨i, false⟩ ∈ w.departures) :
      Turn w (.move (.closeBars i))
        { w with
          engine := (w.engine.remove i).engine
          departures := ⟨i, true⟩ :: w.departures.erase ⟨i, false⟩
          emitted := w.emitted ++ (w.engine.remove i).delivered }
  /-- The latest quote of an instrument that has left is taken away. -/
  | forgets (i : Instrument) (hi : ⟨i, true⟩ ∈ w.departures) :
      Turn w (.move (.forget i))
        { w with
          quotes := (w.quotes.clearLatest i).1
          departures := w.departures.erase ⟨i, true⟩ }
  /-- Somebody asks for a latest quote. -/
  | asks (now : Nat) (i : Instrument) :
      Turn w (.move (.latest now i)) { w with quotes := (w.quotes.latest now i).1 }
  /-- All bars in progress are closed. -/
  | closesAll :
      Turn w (.move .closeAll)
        { w with
          engine := w.engine.flushAll.engine
          emitted := w.emitted ++ w.engine.flushAll.delivered }
  /-- The engine delivers no more bars. -/
  | closesEngine : Turn w (.move .closeEngine) { w with engine := w.engine.close }

/-! ## Clients -/

namespace Client

/-- Queueing a change leaves the registry as it is. -/
theorem queueChange_registry (c : Client) (change : SubscriptionChange) :
    (c.queueChange change).registry = c.registry := by
  unfold queueChange
  split <;> rfl

/-- Subscribing puts the instrument into the registry. -/
theorem subscribe_registry (c : Client) (i : Instrument) :
    (c.subscribe i).1.registry = (c.registry.insert i).1 := by
  unfold subscribe
  by_cases hi : (c.registry.insert i).2 = true
  · simp only [hi, if_true]
    exact queueChange_registry _ _
  · simp only [hi]
    have hmem : i ∈ c.registry.order :=
      not_not.mp fun hnot => hi (Registry.insert_snd_iff.mpr hnot)
    rw [Registry.insert_of_mem hmem]
    rfl

/-- Unsubscribing takes the instrument out of the registry. -/
theorem unsubscribe_registry (c : Client) (i : Instrument) :
    (c.unsubscribe i).1.registry = (c.registry.remove i).1 := by
  unfold unsubscribe
  by_cases hi : (c.registry.remove i).2 = true
  · simp only [hi, if_true]
    exact queueChange_registry _ _
  · simp only [hi]
    have hnot : i ∉ c.registry.order := fun hmem => hi (Registry.remove_snd_iff.mpr hmem)
    rw [Registry.remove_of_not_mem hnot]
    rfl

/-- Closing leaves the registry as it is. -/
theorem close_registry (c : Client) : c.close.registry = c.registry := publish_registry c _

/-- Starting the session leaves the registry as it is. -/
theorem connect_registry {c c' : Client} (h : c.connect = .ok c') : c'.registry = c.registry := by
  obtain ⟨-, -, rfl⟩ := connect_eq_ok h
  rfl

end Client

/-- A step of the session leaves the registry as it is. -/
theorem Intake.step_registry {i i' : Intake} {now : Nat} {e : Event} {effects : List Effect}
    (h : i.step now e = some (i', effects)) : i'.client.registry = i.client.registry := by
  unfold step at h
  split at h
  · obtain ⟨⟨client, effects'⟩, hstep, heq⟩ := Option.map_eq_some_iff.mp h
    obtain ⟨rfl, -⟩ := Prod.mk.inj heq
    exact (Client.step_turn hstep).1
  · exact absurd h (by simp)

/-- Taking a latest quote away changes what is cached, and nothing else. -/
theorem Service.forget_service (s : Service) (i : Instrument) :
    (s.forget i).service =
      { s with path := { s.path with quotes := (s.path.quotes.clearLatest i).1 } } := by
  unfold forget
  simp only
  split <;> rfl

namespace Interplay

variable {x y : Interplay}

/-- A section that leaves the registry and the tick path as they are and emits nothing does nothing
to the standing. -/
theorem rests_of_same (x : Interplay) (sec : ServiceSection) (s : Service) (stage : StopStage)
    {emitted : List ClosedBar} (hregistry : s.registry = x.service.registry)
    (hpath : s.path = x.service.path) (hemitted : emitted = []) :
    x.standing.Turn sec
      { x with service := s, stage, emitted := x.emitted ++ emitted }.standing := by
  unfold standing Service.engine
  rw [hregistry, hpath, hemitted, List.append_nil]
  exact .rests sec

/-- What a move does that is no part of an unsubscription. -/
theorem step_move {m : ServiceMove} (hm : x.departuresAfter m = some x.departures)
    (h : x.step (.move m) = some y) :
    ∃ l, Ledger.move ⟨x.service, x.stage, []⟩ m = some l ∧
      y = { x with
        service := l.service
        stage := l.stage
        emitted := x.emitted ++ emittedIn l.trace } := by
  simp only [step, hm, Option.bind_some] at h
  obtain ⟨l, hmove, rfl⟩ := Option.map_eq_some_iff.mp h
  exact ⟨l, hmove, rfl⟩

/-- What a move does that is recorded nowhere. -/
theorem step_keep {m : ServiceMove} {s : Service} (hm : x.departuresAfter m = some x.departures)
    (hkeep : Ledger.move ⟨x.service, x.stage, []⟩ m = some (Ledger.keep ⟨x.service, x.stage, []⟩ s))
    (h : x.step (.move m) = some y) : y = { x with service := s } := by
  obtain ⟨l, hmove, rfl⟩ := step_move hm h
  obtain rfl := Option.some.inj (hkeep.symm.trans hmove)
  rw [show emittedIn (Ledger.keep ⟨x.service, x.stage, []⟩ s).trace = [] from rfl, List.append_nil]
  rfl

/-- An instrument leaves only if it is subscribed. -/
theorem leave_turn {i : Instrument} (h : x.step (.move (.leave i)) = some y) :
    x.standing.Turn (.move (.leave i)) y.standing := by
  have hregistry : (x.service.leave i).1.registry = (x.service.registry.remove i).1 :=
    x.service.client.unsubscribe_registry i
  by_cases hi : x.service.registry.contains i = true
  · rw [step_leave hi] at h
    obtain rfl := Option.some.inj h
    have hleaves := @Standing.Turn.leaves x.standing i (Registry.contains_iff.mp hi)
    rw [show x.standing.registry = x.service.registry from rfl, ← hregistry] at hleaves
    exact hleaves
  · obtain ⟨l, hmove, rfl⟩ := step_move (by simp only [departuresAfter, if_neg hi]) h
    obtain rfl := Option.some.inj hmove
    have hsame : (x.service.registry.remove i).1 = x.service.registry := by
      rw [Registry.remove_of_not_mem fun hmem => hi (Registry.contains_iff.mpr hmem)]
    exact x.rests_of_same _ (x.service.leave i).1 _ (hregistry.trans hsame) rfl rfl

/-- The bars in progress are closed of an instrument that has left. -/
theorem closeBars_turn {i : Instrument} (h : x.step (.move (.closeBars i)) = some y) :
    x.standing.Turn (.move (.closeBars i)) y.standing := by
  by_cases hi : ⟨i, false⟩ ∈ x.departures
  · rw [step_closeBars hi] at h
    obtain rfl := Option.some.inj h
    exact .closes i hi
  · simp only [step, departuresAfter, if_neg hi, Option.bind_none] at h
    exact absurd h (by simp)

/-- The latest quote is taken away of an instrument that has left. -/
theorem forget_turn {i : Instrument} (h : x.step (.move (.forget i)) = some y) :
    x.standing.Turn (.move (.forget i)) y.standing := by
  by_cases hi : ⟨i, true⟩ ∈ x.departures
  · rw [step_forget hi] at h
    obtain rfl := Option.some.inj h
    rw [Service.forget_service]
    exact .forgets i hi
  · simp only [step, departuresAfter, if_neg hi, Option.bind_none] at h
    exact absurd h (by simp)

/-- A move that is one section is one of the turns. -/
theorem move_turn {m : ServiceMove} (h : x.step (.move m) = some y) :
    x.standing.Turn (.move m) y.standing := by
  cases m with
  | start => exact absurd h (by simp [step, departuresAfter])
  | dispatch => exact absurd h (by simp [step, departuresAfter])
  | leave i => exact leave_turn h
  | closeBars i => exact closeBars_turn h
  | forget i => exact forget_turn h
  | session now e =>
    obtain ⟨l, hmove, rfl⟩ := step_move rfl h
    obtain ⟨⟨intake, effects⟩, hstep, rfl⟩ := Option.map_eq_some_iff.mp hmove
    exact x.rests_of_same _ { x.service with intake } _ (Intake.step_registry hstep) rfl
      (projections_map_queued (effects.filterMap Effect.queued?)).2.2.2.1
  | write =>
    obtain ⟨l, hmove, rfl⟩ := step_move rfl h
    obtain ⟨step, hstep, rfl⟩ := Option.map_eq_some_iff.mp hmove
    unfold Service.flushNext at hstep
    split at hstep
    · exact absurd hstep (by simp)
    · obtain rfl := Option.some.inj hstep
      exact x.rests_of_same _ _ _ rfl rfl rfl
  | subscribe i =>
    obtain rfl := step_keep rfl rfl h
    have hregistry : (x.service.subscribe i).1.registry = (x.service.registry.insert i).1 :=
      x.service.client.subscribe_registry i
    have hsubscribes := @Standing.Turn.subscribes x.standing i
    rw [show x.standing.registry = x.service.registry from rfl, ← hregistry] at hsubscribes
    exact hsubscribes
  | latest now i =>
    obtain rfl := step_keep rfl rfl h
    exact .asks now i
  | history r =>
    obtain rfl := step_keep rfl rfl h
    exact .rests _
  | requestStop =>
    obtain ⟨l, hmove, rfl⟩ := step_move rfl h
    obtain ⟨s, hs, rfl⟩ := Option.map_eq_some_iff.mp hmove
    unfold Service.requestStop at hs
    split at hs
    · exact absurd hs (by simp)
    · obtain rfl := Option.some.inj hs
      exact x.rests_of_same _ _ _ rfl rfl rfl
  | closeClient =>
    obtain ⟨l, hmove, rfl⟩ := step_move rfl h
    simp only [Ledger.move] at hmove
    split at hmove
    · obtain rfl := Option.some.inj hmove
      exact x.rests_of_same _ x.service.closeClient _ x.service.client.close_registry rfl rfl
    · exact absurd hmove (by simp)
  | closeAll =>
    by_cases hfree : x.hand = .free
    · obtain ⟨l, hmove, rfl⟩ := step_move (by simp only [departuresAfter, if_pos hfree]) h
      simp only [Ledger.move] at hmove
      split at hmove
      · obtain rfl := Option.some.inj hmove
        have hemitted : emittedIn (Ledger.call ⟨x.service, x.stage, []⟩ .flush
            x.service.closeAll).trace = x.service.engine.flushAll.delivered := by
          simp [Ledger.call, emittedIn, callsIn, Happening.called?, Service.closeAll,
            Service.newBars_emit]
        simp only [hemitted]
        exact .closesAll
      · exact absurd hmove (by simp)
    · simp only [step, departuresAfter, if_neg hfree, Option.bind_none] at h
      exact absurd h (by simp)
  | closeEngine =>
    obtain ⟨l, hmove, rfl⟩ := step_move rfl h
    simp only [Ledger.move] at hmove
    split at hmove
    · obtain rfl := Option.some.inj hmove
      rw [show emittedIn ({ Ledger.keep ⟨x.service, x.stage, []⟩ x.service.closeEngine with
        stage := .engineClosed } : Ledger).trace = [] from rfl, List.append_nil]
      exact .closesEngine
    · exact absurd hmove (by simp)
  | returnStop =>
    obtain ⟨l, hmove, rfl⟩ := step_move rfl h
    simp only [Ledger.move] at hmove
    split at hmove
    · obtain rfl := Option.some.inj hmove
      exact x.rests_of_same _ _ _ rfl rfl rfl
    · exact absurd hmove (by simp)

/-- The dispatcher brings a quote's tick to the engine only if the instrument is subscribed. -/
theorem accept_turn (x : Interplay) (receivedAt : Timestamp) (quote : Quote) :
    x.standing.Turn (.judge receivedAt) (x.accept quote).standing := by
  unfold accept TickPath.accept
  by_cases hsubscribed : x.service.registry.contains quote.instrument = true
  · rw [if_pos hsubscribed]
    have hmem := Registry.contains_iff.mp hsubscribed
    cases hadd : x.service.path.engine.addTick quote.tick with
    | mk m outcome =>
      cases outcome with
      | outOfTime => exact .adds receivedAt quote m _ .free hmem hadd (.inl rfl)
      | applied rolled current =>
        exact .adds receivedAt quote m _ (.quote quote current) hmem hadd (.inr ⟨current, rfl⟩)
  · rw [if_neg hsubscribed]
    have hstanding : ({ x.follow (⟨x.service.path, [], [], none⟩ : PathStep (Option TickOutcome))
        with hand := .free } : Interplay).standing = { x.standing with hand := .free } := by
      simp only [follow, standing, List.append_nil]
    simp only [hstanding]
    exact .turnsTo _ .free rfl

/-- A write to the cache changes what is cached, and the dispatcher goes on with something else than
a quote. -/
theorem noted_standing (x : Interplay) (kind : String) (write : QuoteCache × Except CacheFault Unit)
    {hand : Hand} (hhand : hand.hasQuote = false) :
    ∃ next, next.hasQuote = false ∧
      (x.noted (x.service.path.noteWrite kind write) hand).standing =
        { x.standing with quotes := write.1, hand := next } := by
  have hfollow : ∀ next,
      ({ x.follow (x.service.path.noteWrite kind write) with hand := next } : Interplay).standing =
        { x.standing with quotes := write.1, hand := next } := by
    intro next
    simp only [follow, standing, Service.engine, TickPath.noteWrite_engine,
      TickPath.noteWrite_quotes, TickPath.noteWrite_delivered, List.append_nil]
    rfl
  unfold noted
  split
  · exact ⟨hand, hhand, hfollow hand⟩
  · exact ⟨.free, rfl, hfollow .free⟩

/-- **Every section is one of the turns.** -/
theorem step_turn {sec : ServiceSection} (h : x.step sec = some y) :
    x.standing.Turn sec y.standing := by
  cases sec with
  | move m => exact move_turn h
  | begin =>
    obtain ⟨s, hs, rfl⟩ := Option.map_eq_some_iff.mp h
    unfold Service.begin? at hs
    split at hs
    · exact absurd hs (by simp)
    · split at hs <;>
      · obtain rfl := Option.some.inj hs
        exact .rests _
  | connect =>
    obtain ⟨s, hs, rfl⟩ := Option.map_eq_some_iff.mp h
    unfold Service.connect? at hs
    split at hs
    · exact absurd hs (by simp)
    · obtain ⟨client, hclient, rfl⟩ := Option.map_eq_some_iff.mp hs
      have hregistry : (x.service.setClient client).registry = x.service.registry :=
        Client.connect_registry (eq_ok_of_toOption hclient)
      have hstanding : ({ x with service := x.service.setClient client } : Interplay).standing =
          x.standing := by
        unfold standing
        rw [hregistry]
        rfl
      rw [hstanding]
      exact .rests _
  | fetch =>
    simp only [step] at h
    split at h
    · obtain ⟨⟨p, intake⟩, hpop, rfl⟩ := Option.map_eq_some_iff.mp h
      have hregistry : ({ x.service with intake } : Service).registry = x.service.registry :=
        congrArg Client.registry (Intake.pop?_client hpop)
      have hstanding : ({ x with
          service := { x.service with intake }
          hand := .payload p } : Interplay).standing =
          { x.standing with hand := .payload p } := by
        unfold standing
        rw [hregistry]
        rfl
      simp only [hstanding]
      exact .turnsTo _ (.payload p) rfl
    · exact absurd h (by simp)
  | judge receivedAt =>
    simp only [step] at h
    split at h
    · split at h
      · obtain rfl := Option.some.inj h
        exact x.accept_turn receivedAt _
      · obtain rfl := Option.some.inj h
        exact .turnsTo _ .free rfl
    · exact absurd h (by simp)
  | writeQuote now =>
    simp only [step] at h
    split at h
    · rename_i quote current hquote
      obtain rfl := Option.some.inj h
      have hnext : (if x.service.path.cachesBars then .ofBars current else .free : Hand).hasQuote =
          false := by
        split
        · exact Hand.hasQuote_ofBars current
        · rfl
      obtain ⟨hand, hhand, hstanding⟩ := x.noted_standing "latest_quote"
        (x.service.path.quotes.setLatest now quote) hnext
      rw [TickPath.recordQuote, hstanding]
      exact .writesQuote now quote current hand hquote hhand
    · exact absurd h (by simp)
  | writeBar now =>
    simp only [step] at h
    split at h
    · rename_i bar bars hbars
      obtain rfl := Option.some.inj h
      obtain ⟨hand, hhand, hstanding⟩ := x.noted_standing "current_bar"
        (x.service.path.quotes.setCurrent now bar) (Hand.hasQuote_ofBars bars)
      rw [TickPath.recordBar, hstanding]
      exact .writesBar now bar hand hhand
    · exact absurd h (by simp)

end Interplay

end CandleFeed

import CandleFeed.Proofs.Run
import CandleFeed.Proofs.Service.Trace
import CandleFeed.Proofs.Service.Workings

/-!
# The sections of a service

Of what a party to a service does while it holds a lock, nobody else sees half.  Such a piece is a
**`ServiceSection`**.  Most moves of a service are one section, but two are several.  The dispatcher
first takes a payload out of the queue, then decides what it is and brings a quote's tick to the
engine while the registry is locked, then writes the quote, and then each bar in progress.  A start
first has the dispatcher take payloads, then subscribes each instrument, and then starts the client.
Between any two of these the others may have their turn.

An **`Interplay`** is a service amid its sections, with what its parties have begun and not ended:
what the dispatcher has in its **`Hand`**, and the unsubscriptions whose instrument has left the
registry, its **`Departure`**s.  There may be several of one instrument.  **`Interplay.step`** makes
a section, if the party has come so far.

Sections with nobody else's between them are what the service does in one go: `run_start`,
`leads_dispatch` and `run_unsubscribe`.
-/

namespace CandleFeed

/-- What the dispatcher has to go on with. -/
inductive Hand where
  /-- Nothing. -/
  | free
  /-- A payload that it has taken from the queue. -/
  | payload (p : SessionPayload)
  /-- A quote whose tick the engine has taken, and the bars in progress after it. -/
  | quote (quote : Quote) (current : List OpenBar)
  /-- Bars in progress that are still to be written. -/
  | bars (current : List OpenBar)
deriving DecidableEq

/-- The bars that are still to be written, if there are any. -/
def Hand.ofBars : List OpenBar → Hand
  | [] => free
  | bar :: rest => bars (bar :: rest)

/-- An unsubscription that has taken its instrument out of the registry and has not returned. -/
structure Departure where
  /-- The instrument. -/
  instrument : Instrument
  /-- Its bars in progress have been closed. -/
  barsClosed : Bool
deriving DecidableEq

/-- What a party to a service does in one go. -/
inductive ServiceSection where
  /-- A start has the dispatcher take payloads. -/
  | begin
  /-- A start that has subscribed the instruments starts the client. -/
  | connect
  /-- The dispatcher takes a payload from the queue. -/
  | fetch
  /-- The dispatcher decides what the payload is, and brings a quote's tick to the engine if its
  instrument is subscribed. -/
  | judge (receivedAt : Timestamp)
  /-- The dispatcher writes the quote. -/
  | writeQuote (now : Nat)
  /-- The dispatcher writes a bar in progress. -/
  | writeBar (now : Nat)
  /-- A move that is one section. -/
  | move (m : ServiceMove)

namespace ServiceSection

/-- The section is one of the dispatcher's. -/
def isDispatchers : ServiceSection → Bool
  | fetch => true
  | judge _ => true
  | writeQuote _ => true
  | writeBar _ => true
  | _ => false

end ServiceSection

namespace Intake

/-- Taking a payload is nothing to the client. -/
theorem pop?_client {i i' : Intake} {p : SessionPayload} (h : i.pop? = some (p, i')) :
    i'.client = i.client := by
  obtain ⟨⟨p', queue⟩, -, heq⟩ := Option.map_eq_some_iff.mp h
  obtain ⟨-, rfl⟩ := Prod.mk.inj heq
  rfl

end Intake

namespace Service

/-- The first part of a start, if the service has not been started: the dispatcher takes payloads,
if the queue can be had. -/
def begin? (s : Service) : Option Service :=
  if s.stopped || s.begun then none
  else if PayloadQueue.isCapacity s.config.connection.payloadBuffer then
    some { s with begun := true, dispatcher := .running }
  else some { s with begun := true }

/-- The last part of a start: the client is started, if it can be. -/
def connect? (s : Service) : Option Service :=
  if s.dispatcher = .idle then none else s.client.connect.toOption.map s.setClient

/-- The dispatcher ends, and nobody takes payloads any more. -/
def breakOff (s : Service) : Service :=
  { s with intake := s.intake.abandon, dispatcher := .broken }

/-- Subscribing instruments leaves the dispatcher as it is. -/
theorem subscribeAll_dispatcher (s : Service) (is : List Instrument) :
    (s.subscribeAll is).dispatcher = s.dispatcher := by
  induction is generalizing s with
  | nil => rfl
  | cons i is ih => exact ih (s.subscribe i).1

/-- A start that succeeds has gone through its parts. -/
theorem start_eq_ok {s s' : Service} (h : s.start = (s', .ok ())) :
    ∃ begun, s.begin? = some begun ∧ (begun.subscribeAll s.instruments).connect? = some s' := by
  unfold start at h
  split at h
  · exact absurd h (by simp)
  · rename_i hstopped
    split at h
    · exact absurd h (by simp)
    · rename_i hbegun
      simp only at h
      split at h
      · exact absurd h (by simp)
      · rename_i hcapacity
        refine ⟨{ s with begun := true, dispatcher := .running }, ?_, ?_⟩
        · unfold begin?
          rw [if_neg (by simp [hstopped, hbegun]), if_pos (by simpa using hcapacity)]
        · unfold connect?
          rw [subscribeAll_dispatcher, if_neg (by simp)]
          split at h
          · rename_i client hconnect
            rw [hconnect, ← (Prod.mk.inj h).1]
            rfl
          · exact absurd h (by simp)

/-- The dispatcher takes the payload that `pop?` gives, and ends if its path broke off. -/
theorem dispatchNext_eq_some {s : Service} {now : Nat} {receivedAt : Timestamp}
    {step : ServiceStep Dispatched} (h : s.dispatchNext now receivedAt = some step) :
    s.dispatcher = .running ∧ ∃ p intake taken, s.intake.pop? = some (p, intake) ∧
      taken = s.path.dispatch now receivedAt s.registry p.session p.payload ∧
      step.result = taken.result ∧
      step.service =
        let next := { s with intake, path := taken.path, bars := s.bars ++ taken.delivered }
        if taken.result = .brokenOff then next.breakOff else next := by
  unfold dispatchNext at h
  split at h
  · rename_i hrunning
    obtain ⟨⟨p, intake⟩, hpop, rfl⟩ := Option.map_eq_some_iff.mp h
    exact ⟨hrunning, p, intake, _, hpop, rfl, rfl, rfl⟩
  · exact absurd h (by simp)

end Service

/-- A service amid the sections of its parties. -/
structure Interplay where
  /-- The service. -/
  service : Service
  /-- How far its stop has come. -/
  stage : StopStage
  /-- What the dispatcher has to go on with. -/
  hand : Hand
  /-- The unsubscriptions under way. -/
  departures : List Departure
  /-- The bars that the engine has emitted, in order. -/
  emitted : List ClosedBar

namespace Interplay

/-- A service before anything happens. -/
def start (s : Service) : Interplay := ⟨s, .running, .free, [], []⟩

/-- Takes over what a stage of the tick path did. -/
def follow {α : Type} (x : Interplay) (taken : PathStep α) : Interplay :=
  { x with
    service := { x.service with path := taken.path, bars := x.service.bars ++ taken.delivered }
    emitted := x.emitted ++ taken.delivered }

/-- The dispatcher ends. -/
def breakOff (x : Interplay) : Interplay := { x with service := x.service.breakOff, hand := .free }

/-- The dispatcher goes on after a write, or ends if the path broke off. -/
def noted (x : Interplay) (written : PathStep Bool) (hand : Hand) : Interplay :=
  if written.result then { x.follow written with hand } else (x.follow written).breakOff

/-- The dispatcher has a quote: its tick goes to the engine if its instrument is subscribed. -/
def accept (x : Interplay) (quote : Quote) : Interplay :=
  let accepted := x.service.path.accept x.service.registry quote
  match accepted.result with
  | none => { x.follow accepted with hand := .free }
  | some .outOfTime => (x.follow accepted).breakOff
  | some (.applied _ current) => { x.follow accepted with hand := .quote quote current }

/-- The unsubscriptions under way after a move, if the parties have come so far and the move is one
section. -/
def departuresAfter (x : Interplay) : ServiceMove → Option (List Departure)
  | .start => none
  | .dispatch _ _ => none
  | .leave i =>
    if x.service.registry.contains i then some (⟨i, false⟩ :: x.departures) else some x.departures
  | .closeBars i =>
    if ⟨i, false⟩ ∈ x.departures then some (⟨i, true⟩ :: x.departures.erase ⟨i, false⟩) else none
  | .forget i => if ⟨i, true⟩ ∈ x.departures then some (x.departures.erase ⟨i, true⟩) else none
  | .closeAll => if x.hand = .free then some x.departures else none
  | _ => some x.departures

/-- Makes a section, if it can be made. -/
def step (x : Interplay) : ServiceSection → Option Interplay
  | .begin => x.service.begin?.map fun service => { x with service }
  | .connect => x.service.connect?.map fun service => { x with service }
  | .fetch =>
    if x.service.dispatcher = .running ∧ x.hand = .free then
      x.service.intake.pop?.map fun (p, intake) =>
        { x with service := { x.service with intake }, hand := .payload p }
    else none
  | .judge receivedAt =>
    match x.hand with
    | .payload p =>
      match TickPath.classify p.session p.payload receivedAt with
      | .quote quote => some (x.accept quote)
      | _ => some { x with hand := .free }
    | _ => none
  | .writeQuote now =>
    match x.hand with
    | .quote quote current =>
      let written := x.service.path.recordQuote now quote
      some (x.noted written (if x.service.path.cachesBars then .ofBars current else .free))
    | _ => none
  | .writeBar now =>
    match x.hand with
    | .bars (bar :: bars) => some (x.noted (x.service.path.recordBar now bar) (.ofBars bars))
    | _ => none
  | .move m =>
    (x.departuresAfter m).bind fun departures =>
      (Ledger.move ⟨x.service, x.stage, []⟩ m).map fun l =>
        { x with
          service := l.service
          stage := l.stage
          departures
          emitted := x.emitted ++ emittedIn l.trace }

/-- Makes sections in turn. -/
def run (x : Interplay) (sections : List ServiceSection) : Option Interplay :=
  sections.foldlM step x

/-! ## Sections in one go -/

variable {x y z : Interplay} {sections later : List ServiceSection}

/-- What is run in two parts is run as a whole. -/
theorem run_append (h : x.run sections = some y) (hlater : y.run later = some z) :
    x.run (sections ++ later) = some z := by
  unfold run at *
  rw [List.foldlM_append, h]
  exact hlater

/-- A run of a whole has come by its parts. -/
theorem run_append_eq_some (h : x.run (sections ++ later) = some z) :
    ∃ y, x.run sections = some y ∧ y.run later = some z := by
  unfold run at *
  rw [List.foldlM_append] at h
  exact Option.bind_eq_some_iff.mp h

/-- One section is a run. -/
theorem run_single {sec : ServiceSection} (h : x.step sec = some y) : x.run [sec] = some y := by
  unfold run
  rw [List.foldlM_cons, h]
  rfl

/-- A run of one section has made it. -/
theorem step_of_run_single {sec : ServiceSection} (h : x.run [sec] = some y) :
    x.step sec = some y := by
  obtain ⟨z, hstep, hnil⟩ := Option.bind_eq_some_iff.mp h
  obtain rfl := Option.some.inj hnil
  exact hstep

/-- What every section of a run keeps holds after the run. -/
theorem run_keeps {P : Interplay → Prop}
    (hstep : ∀ sec ∈ sections, ∀ x y, P x → step x sec = some y → P y) (hx : P x)
    (hrun : x.run sections = some y) : P y := by
  exact foldlM_keeps hstep hx hrun

/-- The subscriptions of a start, in turn. -/
theorem run_subscribeAll (x : Interplay) (is : List Instrument) :
    x.run (is.map fun i => .move (.subscribe i)) =
      some { x with service := x.service.subscribeAll is } := by
  induction is generalizing x with
  | nil => rfl
  | cons i is ih =>
    have hfirst : x.step (.move (.subscribe i)) =
        some { x with service := (x.service.subscribe i).1 } := by
      simp [step, departuresAfter, Ledger.move, Ledger.keep, emittedIn, callsIn]
    exact run_append (run_single hfirst) (ih _)

/-- **A start is made of sections.** -/
theorem run_start {s : Service} (h : x.service.start = (s, .ok ())) :
    x.run (.begin :: x.service.instruments.map (fun i => .move (.subscribe i)) ++ [.connect]) =
      some { x with service := s } := by
  obtain ⟨s', hbegin, hconnect⟩ := Service.start_eq_ok h
  have hfirst : x.step .begin = some { x with service := s' } := by
    simp only [step, hbegin, Option.map_some]
  have hlast : ({ x with service := s'.subscribeAll x.service.instruments } : Interplay).step
      .connect = some { x with service := s } := by
    simp only [step, hconnect, Option.map_some]
  exact run_append (run_append (run_single hfirst) (run_subscribeAll _ _)) (run_single hlast)

/-- A subscribed instrument leaves, and its unsubscription is under way. -/
theorem step_leave {i : Instrument} (hi : x.service.registry.contains i = true) :
    x.step (.move (.leave i)) = some { x with
      service := (x.service.leave i).1
      departures := ⟨i, false⟩ :: x.departures } := by
  simp only [step, departuresAfter, if_pos hi, Option.bind_some, Ledger.move, Option.map_some]
  rw [show emittedIn (Ledger.keep ⟨x.service, x.stage, []⟩ (x.service.leave i).1).trace = [] from
    rfl, List.append_nil]
  rfl

/-- An unsubscription closes the bars in progress of its instrument. -/
theorem step_closeBars {i : Instrument} (hi : ⟨i, false⟩ ∈ x.departures) :
    x.step (.move (.closeBars i)) = some { x with
      service := x.service.closeBars i
      departures := ⟨i, true⟩ :: x.departures.erase ⟨i, false⟩
      emitted := x.emitted ++ (x.service.engine.remove i).delivered } := by
  simp only [step, departuresAfter, if_pos hi, Option.bind_some, Ledger.move, Option.map_some]
  rw [show emittedIn (Ledger.call ⟨x.service, x.stage, []⟩ (.remove i)
      (x.service.closeBars i)).trace = (x.service.engine.remove i).delivered from by
    simp [Ledger.call, emittedIn, callsIn, Happening.called?, Service.closeBars,
      Service.newBars_emit]]
  rfl

/-- An unsubscription takes the latest quote away and returns. -/
theorem step_forget {i : Instrument} (hi : ⟨i, true⟩ ∈ x.departures) :
    x.step (.move (.forget i)) = some { x with
      service := (x.service.forget i).service
      departures := x.departures.erase ⟨i, true⟩ } := by
  simp only [step, departuresAfter, if_pos hi, Option.bind_some, Ledger.move, Option.map_some]
  rw [show emittedIn (Ledger.keep ⟨x.service, x.stage, []⟩ (x.service.forget i).service).trace = []
    from rfl, List.append_nil]
  rfl

/-- **An unsubscription is made of sections.** -/
theorem run_unsubscribe {i : Instrument} (hi : x.service.registry.contains i = true) :
    x.run [.move (.leave i), .move (.closeBars i), .move (.forget i)] =
      some { x with
        service := (x.service.unsubscribe i).service
        emitted := x.emitted ++ (x.service.engine.remove i).delivered } := by
  have hleave : x.service.leave i = ((x.service.leave i).1, true) := by
    refine Prod.ext rfl ?_
    unfold Service.leave Client.unsubscribe
    have : (x.service.client.registry.remove i).2 = true :=
      Registry.remove_snd_iff.mpr (Registry.contains_iff.mp hi)
    simp only [this, if_true]
  have hunsubscribe : (x.service.unsubscribe i).service =
      (((x.service.leave i).1.closeBars i).forget i).service := by
    unfold Service.unsubscribe
    rw [hleave]
  rw [hunsubscribe]
  refine run_append (run_single (step_leave hi)) ?_
  refine run_append (run_single (step_closeBars List.mem_cons_self)) ?_
  rw [run_single (step_forget List.mem_cons_self)]
  simp only [List.erase_cons_head]
  rfl

/-! ## A payload in one go -/

/-- Two stages leave what both of them together leave. -/
theorem follow_follow {α β γ : Type} (x : Interplay) {first : PathStep α} {second : PathStep β}
    {both : PathStep γ} (hpath : both.path = second.path)
    (hdelivered : both.delivered = first.delivered ++ second.delivered) :
    (x.follow first).follow second = x.follow both := by
  unfold follow
  simp only [hpath, hdelivered, List.append_assoc]

/-- The same holds where the dispatcher has something else to go on with in between. -/
theorem noted_follow {α : Type} (x : Interplay) {first : PathStep α}
    {second both : PathStep Bool} (hpath : both.path = second.path)
    (hdelivered : both.delivered = first.delivered ++ second.delivered)
    (hresult : both.result = second.result) (between hand : Hand) :
    noted { x.follow first with hand := between } second hand = x.noted both hand := by
  have hfollow := x.follow_follow hpath hdelivered
  unfold noted
  rw [hresult, ← hfollow]
  rfl

/-- The dispatcher comes from one interplay to another by sections of its own. -/
def Leads (x y : Interplay) : Prop :=
  ∃ sections, (∀ sec ∈ sections, sec.isDispatchers = true) ∧ x.run sections = some y

/-- Without a section everything stays. -/
theorem Leads.refl (x : Interplay) : x.Leads x :=
  ⟨[], fun _ h => absurd h List.not_mem_nil, rfl⟩

/-- The dispatcher makes a section first. -/
theorem Leads.cons {sec : ServiceSection} (hsec : sec.isDispatchers = true)
    (hfirst : x.step sec = some y) (h : y.Leads z) : x.Leads z := by
  obtain ⟨sections, hall, hrun⟩ := h
  exact ⟨sec :: sections, List.forall_mem_cons.mpr ⟨hsec, hall⟩,
    run_append (run_single hfirst) hrun⟩

/-- The dispatcher writes the bars in progress in turn. -/
theorem leads_recordBars (x : Interplay) (now : Nat) (bars : List OpenBar) :
    Leads { x with hand := .ofBars bars } (x.noted (x.service.path.recordBars now bars) .free) := by
  induction bars generalizing x with
  | nil =>
    have hnothing : x.noted (x.service.path.recordBars now []) .free =
        { x with hand := .ofBars [] } := by
      simp only [TickPath.recordBars, noted, follow, Hand.ofBars, if_true, List.append_nil]
    rw [hnothing]
    exact .refl _
  | cons bar bars ih =>
    have hstep : step { x with hand := .ofBars (bar :: bars) } (.writeBar now) =
        some (x.noted (x.service.path.recordBar now bar) (.ofBars bars)) := rfl
    refine .cons rfl hstep ?_
    simp only [TickPath.recordBars]
    by_cases hfirst : (x.service.path.recordBar now bar).result = true
    · rw [if_pos hfirst, noted, if_pos hfirst]
      have hrest := ih (x.follow (x.service.path.recordBar now bar))
      rw [← x.noted_follow rfl _ rfl (x.follow (x.service.path.recordBar now bar)).hand .free]
      · exact hrest
      · rw [TickPath.recordBar, TickPath.noteWrite_delivered]
        rfl
    · rw [if_neg hfirst]
      unfold noted
      rw [if_neg hfirst, if_neg hfirst]
      exact .refl _

/-- The dispatcher writes a quote and, where these are cached, the bars in progress. -/
theorem leads_record (x : Interplay) (now : Nat) (quote : Quote) (current : List OpenBar) :
    Leads { x with hand := .quote quote current }
      (x.noted (x.service.path.record now quote current) .free) := by
  have hstep : step { x with hand := .quote quote current } (.writeQuote now) =
      some (x.noted (x.service.path.recordQuote now quote)
        (if x.service.path.cachesBars then .ofBars current else .free)) := rfl
  refine .cons rfl hstep ?_
  have hnothing : (x.service.path.recordQuote now quote).delivered = [] :=
    TickPath.noteWrite_delivered _ _ _
  unfold TickPath.record
  by_cases hgoesOn : ((x.service.path.recordQuote now quote).result && x.service.path.cachesBars)
      = true
  · rw [if_pos hgoesOn]
    obtain ⟨hresult, hcaches⟩ := Bool.and_eq_true_iff.mp hgoesOn
    rw [if_pos hcaches, noted, if_pos hresult]
    have hrest := leads_recordBars (x.follow (x.service.path.recordQuote now quote)) now current
    rw [← x.noted_follow rfl (by rw [hnothing]; rfl) rfl x.hand .free]
    exact hrest
  · rw [if_neg hgoesOn]
    unfold noted
    by_cases hresult : (x.service.path.recordQuote now quote).result = true
    · have hcaches : x.service.path.cachesBars = false := by simpa [hresult] using hgoesOn
      rw [if_pos hresult, if_pos hresult, hcaches]
      exact .refl _
    · rw [if_neg hresult, if_neg hresult]
      exact .refl _

/-- The dispatcher is through with a payload, or ends if the path broke off. -/
def ended (x : Interplay) (taken : PathStep Dispatched) : Interplay :=
  if taken.result = .brokenOff then (x.follow taken).breakOff
  else { x.follow taken with hand := .free }

/-- What was counted on the way makes no difference to where the dispatcher ends up. -/
theorem ended_congr (x : Interplay) {taken taken' : PathStep Dispatched}
    (hpath : taken'.path = taken.path) (hdelivered : taken'.delivered = taken.delivered)
    (hresult : taken'.result = taken.result) : x.ended taken' = x.ended taken := by
  unfold ended follow
  rw [hpath, hdelivered, hresult]

/-- A payload that nothing is done about leaves the hand free. -/
theorem ended_of_nothing (x : Interplay) {taken : PathStep Dispatched}
    (hpath : taken.path = x.service.path) (hdelivered : taken.delivered = [])
    (hresult : taken.result ≠ .brokenOff) : x.ended taken = { x with hand := .free } := by
  unfold ended follow
  rw [if_neg hresult, hpath, hdelivered, List.append_nil, List.append_nil]

/-- Writing after the engine has taken the tick is the end of taking a quote. -/
theorem noted_eq_ended {α : Type} (x : Interplay) (accepted : PathStep α)
    {recorded : PathStep Bool} {taken : PathStep Dispatched} (quote : Quote)
    (hpath : taken.path = recorded.path) (hdelivered : taken.delivered = accepted.delivered)
    (hnothing : recorded.delivered = [])
    (hresult : taken.result = if recorded.result then .tick quote else .brokenOff) :
    (x.follow accepted).noted recorded .free = x.ended taken := by
  unfold noted ended
  rw [x.follow_follow hpath (by rw [hdelivered, hnothing, List.append_nil]), hresult]
  by_cases hrecorded : recorded.result = true
  · rw [if_pos hrecorded, if_pos hrecorded, if_neg (by simp)]
  · rw [if_neg hrecorded, if_neg hrecorded, if_pos rfl]

/-- The dispatcher takes a quote. -/
theorem leads_take (x : Interplay) (now : Nat) (quote : Quote) :
    (x.accept quote).Leads (x.ended (x.service.path.take now x.service.registry quote)) := by
  unfold accept TickPath.take
  cases hresult : (x.service.path.accept x.service.registry quote).result with
  | none =>
    have hunsubscribed : x.service.path.accept x.service.registry quote =
        ⟨x.service.path, [], [], none⟩ := by
      unfold TickPath.accept at hresult ⊢
      split at hresult
      · exact absurd hresult (by simp)
      · rename_i hnot
        rw [if_neg hnot]
    rw [hunsubscribed]
    exact .refl _
  | some outcome =>
    cases outcome with
    | outOfTime =>
      simp only [hresult]
      exact .refl _
    | applied rolled current =>
      have hrecord := leads_record (x.follow (x.service.path.accept x.service.registry quote)) now
        quote current
      simp only [hresult]
      rw [← x.noted_eq_ended (x.service.path.accept x.service.registry quote) quote rfl rfl
        (TickPath.record_delivered _ _ _ _) rfl]
      exact hrecord

/-- The dispatcher goes through with a payload. -/
theorem leads_payload {p : SessionPayload} (hhand : x.hand = .payload p) (now : Nat)
    (receivedAt : Timestamp) :
    x.Leads (x.ended
      (x.service.path.dispatch now receivedAt x.service.registry p.session p.payload)) := by
  have hnothing : ∀ taken : PathStep Dispatched, taken.path = x.service.path →
      taken.delivered = [] → taken.result ≠ .brokenOff →
      x.step (.judge receivedAt) = some { x with hand := .free } → x.Leads (x.ended taken) := by
    intro taken hpath hdelivered hresult hjudge
    rw [x.ended_of_nothing hpath hdelivered hresult]
    exact .cons rfl hjudge (.refl _)
  unfold TickPath.dispatch
  cases hclass : TickPath.classify p.session p.payload receivedAt with
  | quote quote =>
    have hjudge : x.step (.judge receivedAt) = some (x.accept quote) := by
      simp only [step, hhand, hclass]
    refine .cons rfl hjudge ?_
    have htake := x.leads_take now quote
    simp only
    split
    · rw [x.ended_congr rfl rfl rfl]
      exact htake
    · exact htake
  | heartbeat => exact hnothing _ rfl rfl (by simp) (by simp only [step, hhand, hclass])
  | sessionControl => exact hnothing _ rfl rfl (by simp) (by simp only [step, hhand, hclass])
  | dropped reason => exact hnothing _ rfl rfl (by simp) (by simp only [step, hhand, hclass])

/-- **What the dispatcher does with a payload is made of sections.** -/
theorem leads_dispatch (hfree : x.hand = .free) {now : Nat} {receivedAt : Timestamp}
    {taken : ServiceStep Dispatched} (h : x.service.dispatchNext now receivedAt = some taken) :
    x.Leads { x with
      service := taken.service
      emitted := x.emitted ++ x.service.newBars taken.service } := by
  obtain ⟨hrunning, p, intake, dispatched, hpop, hdispatched, -, hservice⟩ :=
    Service.dispatchNext_eq_some h
  let fetched : Interplay := { x with service := { x.service with intake }, hand := .payload p }
  have hfetch : x.step .fetch = some fetched := by
    simp only [step, hrunning, hfree, and_self, if_true, hpop, Option.map_some, fetched]
  have hended : fetched.ended dispatched = { x with
      service := taken.service
      emitted := x.emitted ++ x.service.newBars taken.service } := by
    have hbars : x.service.newBars taken.service = dispatched.delivered := by
      refine Service.newBars_append ?_
      rw [hservice]
      simp only
      split <;> rfl
    rw [hbars, hservice, hfree]
    unfold ended
    simp only
    split <;> rfl
  have hregistry : fetched.service.registry = x.service.registry :=
    congrArg Client.registry (Intake.pop?_client hpop)
  have hpayload := leads_payload (show fetched.hand = .payload p from rfl) now receivedAt
  rw [hregistry, show fetched.service.path = x.service.path from rfl, ← hdispatched, hended]
    at hpayload
  exact .cons rfl hfetch hpayload

end Interplay

end CandleFeed

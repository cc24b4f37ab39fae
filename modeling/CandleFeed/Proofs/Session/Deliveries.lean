import CandleFeed.Proofs.Run
import CandleFeed.Proofs.Session.Reception
import CandleFeed.Proofs.Session.States

/-!
# What a client hands over

**`Receiving`** is a client with its queue, the records of all its connections, and what the
consumer has taken.  A run is any number of steps of the session, calls of the owner and moves of
the consumer.

* **`Reception.Keeps.step`**: a step takes a connection on, or ends it.
* **`Reception.begins_or_apart`**: without a connection, a step makes one or does nothing of note.
* **`Receiving.Exact`**: every connection has handled what its text completes, and what they handed
  over has been taken or waits, that of an earlier connection first.

`run_exact` says this of every run with a consumer that stays.
-/

namespace CandleFeed

open Outgoing

namespace Reception

variable {r : Reception}

/-! ## Steps -/

/-- A write that is complete takes the connection on. -/
theorem Keeps.written {c : Client} {now deadline : Nat} {o : Outgoing} {next : AfterWrite}
    (h : r.Keeps (.writing r.session o deadline next)) :
    let r' := r.note (.writing r.session o deadline next) .written
      (.wrote o :: (c.resume now r.session next).2)
    r'.Keeps (c.resume now r.session next).1.phase ∨
      (c.resume now r.session next).1.phase.link = .down ∧ r'.Over := by
  intro r'
  have hheard : r'.heard = r.heard := List.append_nil _
  have hunfailed : r'.failed = none := (Option.or_none).trans h.unfailed
  have hannounced (hwritten : r'.written = r.written ++ [o]) :
      r'.announced = r.announced ++ announcedIn [o] :=
    (congrArg announcedIn hwritten).trans (announcedIn_append _ _)
  -- what is no heartbeat leaves handled what is
  have hquiet (heffects : (c.resume now r.session next).2 = []) (ho : o.isEcho = false) :
      r'.Reads (Phase.writing r.session o deadline next).inHand
        (Phase.writing r.session o deadline next).pending := by
    refine h.reads.of_handled hheard fun payloads hhandled => hhandled.note _ _ ?_ ?_
    · rw [heffects]
      rfl
    · rw [heffects]
      exact fun o' ho' => List.mem_singleton.mp ho' ▸ ho
  cases next with
  | greet rest =>
    refine .inl (keeps_greet (r := r') c now hunfailed ?_ ?_ (hquiet rfl h.proper))
    · rw [hannounced rfl, List.append_assoc, ← announcedIn_append]
      exact h.announced
    · exact hheard.trans (h.fresh rfl)
  | resubscribe rest =>
    obtain ⟨hnone, hecho⟩ := of_isChange h.proper
    refine .inl (keeps_resubscribe (r := r') c now rest hunfailed ?_ (hquiet rfl hecho))
    rw [hannounced rfl, h.announced_of_up rfl]
    exact congrArg (r.session :: ·) (List.filterMap_cons_none hnone)
  | listen l =>
    obtain ⟨hnone, hecho⟩ := of_isChange h.proper
    refine .inl ⟨rfl, trivial, hunfailed, ?_, Link.noConfusion, hquiet rfl hecho⟩
    rw [hannounced rfl, h.announced_of_up rfl]
    exact congrArg (r.session :: ·) ((List.append_nil _).trans (List.filterMap_cons_none hnone))
  | process l rest =>
    obtain ⟨hheartbeat, ho⟩ := h.proper
    have hr' : r' = r.note (.writing r.session o deadline (.process l rest)) .written
        [.wrote (.echo o.payload), .counted .heartbeats] := by rw [← ho]; rfl
    refine keeps_process (r := r') c now l hunfailed ?_ ?_
    · rw [hannounced rfl, h.announced_of_up rfl, ho]
      rfl
    · cases h.reads with
      | between payloads hinHand => exact absurd hinHand (List.cons_ne_nil _ _)
      | within earlier chunk done before pending' hearlier hread hchunk hhandled =>
        refine .within earlier chunk done (before ++ [o.payload]) pending'
          (hheard.trans hearlier) hread ?_ ?_
        · rw [List.append_assoc]
          exact hchunk
        · rw [hr', ← List.append_assoc]
          exact hhandled.echo hheartbeat _ _

/-- A step that gives a write up. -/
theorem note_of_endsWrite {p : Phase} {e : Event} (hunfailed : r.failed = none)
    (hends : e.endsWrite = true) (hchunk : e.chunk? = none) :
    r.note p e [] = { r with failed := p.outgoing? } := by
  unfold note
  rw [hchunk, if_pos hends, hunfailed]
  simp [Effect.written]

/-- A write that is given up ends the connection. -/
theorem Keeps.over_of_endsWrite {session : String} {o : Outgoing} {deadline : Nat}
    {next : AfterWrite} {e : Event} (h : r.Keeps (.writing session o deadline next))
    (hends : e.endsWrite = true) (hchunk : e.chunk? = none) :
    (r.note (.writing session o deadline next) e []).Over := by
  rw [note_of_endsWrite h.unfailed hends hchunk]
  refine ⟨?_, h.announces⟩
  -- only with a heartbeat in the write are there payloads in hand
  have hwhole {pending : List Char} (hreads : r.Reads [] pending) :
      Exact { r with failed := some o } := by
    obtain ⟨payloads, hread, hhandled⟩ := hreads.whole
    exact .whole payloads pending hread ⟨hhandled.handed, hhandled.echoed⟩
  cases next with
  | greet rest => exact hwhole h.reads
  | resubscribe rest => exact hwhole h.reads
  | listen l => exact hwhole h.reads
  | process l rest =>
    obtain ⟨hheartbeat, ho⟩ := h.proper
    cases h.reads with
    | between payloads hinHand => exact absurd hinHand (List.cons_ne_nil _ _)
    | within earlier chunk done before pending' hheard hearlier hfeed hhandled =>
      exact .cutShort earlier chunk done before rest o.payload pending' _ hheard hearlier hfeed
        hheartbeat (congrArg some ho) ⟨hhandled.handed, hhandled.echoed⟩

/-- A connection with nothing in hand may be over at any time. -/
theorem Keeps.over_of_nil {p : Phase} (h : r.Keeps p) (hinHand : p.inHand = []) : r.Over := by
  have hreads := h.reads
  rw [hinHand] at hreads
  obtain ⟨payloads, hread, hhandled⟩ := hreads.whole
  exact ⟨.whole payloads _ hread hhandled, h.announces⟩

/-- A chunk is gone through, or has a fault in it. -/
theorem Keeps.received {c : Client} {l : Listening} {c' : Client} {now : Nat} {chunk : List Char}
    {effects : List Effect} (h : r.Keeps (.listening r.session l))
    (hphase : c.phase = .listening r.session l)
    (hreact : c.react now (.received chunk) = some (c', effects)) :
    let r' := r.note (.listening r.session l) (.received chunk) effects
    r'.Keeps c'.phase ∨ c'.phase.link = .down ∧ r'.Over := by
  intro r'
  obtain ⟨payloads, hread, hhandled⟩ := Reads.whole h.reads
  have hannounced := h.announced_of_up rfl
  unfold Client.react at hreact
  rw [hphase] at hreact
  simp only at hreact
  have hsame (heffects : effects = []) : r' = { r with heard := r.heard ++ [chunk] } := by
    subst heffects
    simp [r', note, Event.chunk?, Event.endsWrite, Effect.written, h.unfailed]
  split at hreact
  · rename_i fault pending hfeed
    cases hreact
    rw [hsame rfl]
    refine .inr ⟨rfl, ?_, ?_⟩
    · exact .unreadable r.heard chunk payloads l.pending fault rfl hread (congrArg Prod.fst hfeed)
        ⟨hhandled.handed, hhandled.echoed⟩
    · exact ⟨⟨[], (List.append_nil _).trans hannounced⟩, fun _ => hannounced⟩
  · rename_i completed pending hfeed
    cases hreact
    rw [hsame rfl]
    exact keeps_process (r := { r with heard := r.heard ++ [chunk] }) c now { l with pending }
      h.unfailed hannounced (.within r.heard chunk payloads [] l.pending rfl hread hfeed
        (by rw [List.append_nil]; exact ⟨hhandled.handed, hhandled.echoed⟩))

/-- A change begins to be written. -/
theorem Keeps.changed {l : Listening} (h : r.Keeps (.listening r.session l)) (deadline : Nat)
    (change : SubscriptionChange) :
    r.Keeps (.writing r.session (change.on r.session) deadline (.listen l)) := by
  have hproper : (Phase.writing r.session (change.on r.session) deadline (.listen l)).Proper :=
    isChange_on r.session change
  refine ⟨rfl, hproper, h.unfailed, ?_, Link.noConfusion, h.reads⟩
  rw [announcedIn_unwritten hproper rfl, List.append_nil]
  exact h.announced_of_up rfl

/-- A payload that is handed over takes the connection on. -/
theorem Keeps.delivered {l : Listening} {payload : List Char} {rest : List (List Char)}
    (h : r.Keeps (.delivering r.session l payload rest)) (c : Client) (now : Nat) :
    let r' := r.note (.delivering r.session l payload rest) .taken [.delivered r.session payload]
    r'.Keeps (c.process now r.session l rest).phase ∨
      (c.process now r.session l rest).phase.link = .down ∧ r'.Over := by
  intro r'
  have hheard : r'.heard = r.heard := List.append_nil _
  have hwritten : r'.written = r.written := List.append_nil _
  refine keeps_process (r := r') c now l (Option.or_none.trans h.unfailed) ?_ ?_
  · exact (congrArg announcedIn hwritten).trans (h.announced_of_up rfl)
  · cases h.reads with
    | between payloads hinHand => exact absurd hinHand (List.cons_ne_nil _ _)
    | within earlier chunk done before pending' hearlier hread hchunk hhandled =>
      refine .within earlier chunk done (before ++ [payload]) pending'
        (hheard.trans hearlier) hread ?_ ?_
      · rw [List.append_assoc]
        exact hchunk
      · rw [← List.append_assoc]
        exact hhandled.deliver h.proper _ _

/-- **A step takes a connection on, or ends it**, as long as there is a consumer. -/
theorem Keeps.step {c c' : Client} {now : Nat} {e : Event} {effects : List Effect}
    (h : r.Keeps c.phase) (hconsumer : e ≠ .abandoned)
    (hstep : c.step now e = some (c', effects)) :
    (r.note c.phase e effects).Keeps c'.phase ∨
      c'.phase.link = .down ∧ (r.note c.phase e effects).Over := by
  have hreact := Client.react_of_step hstep
  have hsession := h.session
  -- without a connection there is nothing to keep
  have hdown (hlink : c.phase.link = .down) : False := by
    rw [hlink] at hsession
    exact absurd hsession (by simp [Link.session?])
  have hreact' := hreact
  unfold Client.react at hreact
  split at hreact
  all_goals rename_i hphase
  -- the last case is that of no step
  on_goal -1 => exact absurd hreact (by simp)
  all_goals rw [hphase] at h hsession hdown ⊢
  · exact (hdown rfl).elim
  · -- opened
    cases hreact
    rw [note_of_quiet rfl rfl rfl Bool.noConfusion]
    obtain rfl := Option.some.inj hsession
    exact .inl (keeps_resubscribe _ now _ h.unfailed ((List.append_nil _).symm.trans h.announced)
      h.reads)
  · -- subscribed
    cases hreact
    rw [note_of_quiet rfl rfl rfl Bool.noConfusion]
    exact .inl ⟨hsession, trivial, h.unfailed, h.announced, Link.noConfusion, h.reads⟩
  iterate 3 exact (hdown rfl).elim
  · -- a write is complete
    cases hreact
    obtain rfl := Option.some.inj ((Phase.session?_writing _ _ _ _).symm.trans hsession)
    exact h.written
  iterate 3
    · cases hreact
      exact .inr ⟨rfl, h.over_of_endsWrite rfl rfl⟩
  iterate 2
    · cases hreact
      rw [note_of_quiet rfl rfl rfl fun _ => rfl]
      exact .inr ⟨rfl, h.over_of_nil rfl⟩
  · -- a change
    split at hreact
    · exact absurd hreact (by simp)
    · rename_i change rest _
      cases hreact
      rw [note_of_quiet rfl rfl rfl Bool.noConfusion]
      obtain rfl := Option.some.inj hsession
      rw [SubscriptionChange.command_eq_on]
      exact .inl (h.changed _ change)
  · -- a stable connection
    obtain ⟨_, -, hsame⟩ := Option.map_eq_some_iff.mp hreact
    cases hsame
    rw [note_of_quiet rfl rfl rfl Bool.noConfusion]
    exact .inl ⟨hsession, trivial, h.unfailed, h.announced, Link.noConfusion, h.reads⟩
  · -- a chunk
    obtain rfl := Option.some.inj hsession
    exact h.received hphase hreact'
  · cases hreact
    rw [note_of_quiet rfl rfl rfl Bool.noConfusion]
    exact .inr ⟨rfl, h.over_of_nil rfl⟩
  · -- a payload is taken
    cases hreact
    obtain rfl := Option.some.inj hsession
    exact h.delivered c now
  · exact absurd rfl hconsumer
  all_goals exact (hdown rfl).elim

/-- A step from a phase has nothing to do with a connection. -/
structure Apart (p : Phase) (e : Event) (c : Client) (effects : List Effect) : Prop where
  event : e.session? = none
  link : c.phase.link = .down
  handed : effects.filterMap Effect.queued? = []
  noted : ∀ r : Reception, r.note p e effects = r

/-- What an attempt does has nothing to do with a connection, whether it is made or not. -/
theorem attempt_apart (c : Client) : c.attempt.1.phase.link = .down ∧
    Effect.written c.attempt.2 = [] ∧ c.attempt.2.filterMap Effect.queued? = [] := by
  unfold Client.attempt
  split <;> exact ⟨rfl, rfl, rfl⟩

/-- A wait, or the end, is without a connection. -/
theorem backOff_apart (c : Client) (now : Nat) : (c.backOff now).phase.link = .down := by
  unfold Client.backOff
  split <;> rfl

/-- The first that a new connection does is to announce its session. -/
theorem keeps_begin (c : Client) (now : Nat) (session : String) :
    (begin session).Keeps (c.greet now session (c.greeting session)).phase := by
  refine keeps_greet (r := begin session) c now rfl ?_ rfl
    (.between [] rfl (Frame.drain_of_incomplete rfl) (handled_nil session [] none nofun))
  unfold Client.greeting
  cases c.settings.authToken <;> rfl

/-- **Without a connection, a step makes one or has nothing to do with any.** -/
theorem begins_or_apart {c c' : Client} {now : Nat} {e : Event} {effects : List Effect}
    (hlink : c.phase.link = .down) (hstep : c.step now e = some (c', effects)) :
    (∃ session, e.session? = some session ∧ effects = [] ∧ (begin session).Keeps c'.phase) ∨
      Apart c.phase e c' effects := by
  have hreact := Client.react_of_step hstep
  have hup {session : String} (hphase : c.phase.link.session? = some session) : False := by
    rw [hlink] at hphase
    exact absurd hphase (by simp [Link.session?])
  unfold Client.react at hreact
  split at hreact
  all_goals rename_i hphase
  on_goal -1 => exact absurd hreact (by simp)
  all_goals rw [hphase] at hup ⊢
  · -- starting
    obtain ⟨hdown, hwritten, hhanded⟩ := attempt_apart c
    rw [Option.some.inj hreact] at hdown hwritten hhanded
    exact .inr ⟨rfl, hdown, hhanded, fun r => note_of_quiet rfl hwritten hhanded Bool.noConfusion⟩
  iterate 2 exact (hup rfl).elim
  · -- a connection stands
    cases hreact
    exact .inl ⟨_, rfl, rfl, keeps_begin _ now _⟩
  · cases hreact
    exact .inr ⟨rfl, backOff_apart c now, rfl, fun r => note_of_quiet rfl rfl rfl fun _ => rfl⟩
  · cases hreact
    exact .inr ⟨rfl, rfl, rfl, fun r => note_of_quiet rfl rfl rfl fun _ => rfl⟩
  iterate 4 exact (hup (Phase.session?_writing _ _ _ _)).elim
  iterate 8 exact (hup rfl).elim
  iterate 2
    · cases hreact
      exact .inr ⟨rfl, rfl, rfl, fun r => note_of_quiet rfl rfl rfl fun _ => rfl⟩
  iterate 2
    · cases hreact
      exact .inr ⟨rfl, backOff_apart c now, rfl, fun r => note_of_quiet rfl rfl rfl fun _ => rfl⟩
  · -- the time for another attempt has come
    cases hreact
    obtain ⟨hdown, hwritten, hhanded⟩ := attempt_apart c
    exact .inr ⟨rfl, hdown, hhanded, fun r => note_of_quiet rfl hwritten hhanded fun _ => rfl⟩
  · obtain ⟨hdown, hwritten, hhanded⟩ := attempt_apart c
    rw [Option.some.inj hreact] at hdown hwritten hhanded
    exact .inr ⟨rfl, hdown, hhanded, fun r => note_of_quiet rfl hwritten hhanded fun _ => rfl⟩

/-- A connection that stands is followed by no other while it does. -/
theorem Keeps.session?_eq_none {c c' : Client} {now : Nat} {e : Event} {effects : List Effect}
    (h : r.Keeps c.phase) (hstep : c.step now e = some (c', effects)) : e.session? = none := by
  cases e with
  | dialed session =>
    unfold Client.step Client.react at hstep
    have hsession := h.session
    cases hphase : c.phase <;> rw [hphase] at hstep hsession
    case dialing => exact absurd hsession (by simp [Phase.link, Link.session?])
    all_goals exact absurd hstep (by simp)
  | _ => rfl

end Reception

/-! ## Runs -/

/-- What happens to a client and its consumer. -/
inductive IntakeMove where
  /-- The session goes a step, or the owner makes a call. -/
  | client (m : ClientMove)
  /-- The consumer takes a payload. -/
  | pop
  /-- The consumer goes away. -/
  | abandon

/-- A client with its queue after a move, if it can happen, and what the session did outside. -/
def Intake.perform (i : Intake) : IntakeMove → Option (Intake × List Effect)
  | .client (.step now e) => i.step now e
  | .client m => (i.client.perform m).map fun (client, effects) => ({ i with client }, effects)
  | .pop => i.pop?.map fun (_, i) => (i, [])
  | .abandon => some (i.abandon, [])

/-- A client with its queue, the records of its connections, the latest first, and what the consumer
has taken. -/
structure Receiving where
  intake : Intake
  receptions : List Reception
  taken : List SessionPayload

namespace Receiving

/-- A client before it is started. -/
def start (settings : ClientSettings) (capacity : Nat) : Receiving :=
  ⟨.new settings capacity, [], []⟩

/-- The records after a move that had the effects. -/
def record (w : Receiving) (effects : List Effect) : IntakeMove → List Reception
  | .client (.step _ e) =>
    match e.session? with
    | some session => .begin session :: w.receptions
    | none => w.receptions.modifyHead (·.note w.intake.client.phase e effects)
  | _ => w.receptions

/-- What the consumer takes in a move. -/
def takes (w : Receiving) : IntakeMove → List SessionPayload
  | .pop => w.intake.queue.waiting.take 1
  | _ => []

/-- A move, if it can happen. -/
def move (w : Receiving) (m : IntakeMove) : Option Receiving :=
  (w.intake.perform m).map fun (intake, effects) =>
    ⟨intake, w.record effects m, w.taken ++ w.takes m⟩

/-- Moves one after another. -/
def run (w : Receiving) (moves : List IntakeMove) : Option Receiving := moves.foldlM move w

/-- Every connection is over but the latest, and that is unless it stands. -/
inductive Connections (w : Receiving) : Prop
  /-- None stands. -/
  | apart (hlink : w.intake.client.phase.link = .down) (hover : ∀ r ∈ w.receptions, r.Over)
  /-- The latest stands. -/
  | stands (r : Reception) (earlier : List Reception) (hreceptions : w.receptions = r :: earlier)
      (hkeeps : r.Keeps w.intake.client.phase) (hover : ∀ r ∈ earlier, r.Over)

/-- **What a client hands over is exact.** -/
structure Exact (w : Receiving) : Prop where
  /-- Every connection has handled what its text completes. -/
  connections : w.Connections
  /-- What connections handed over was taken or waits, that of an earlier one first. -/
  queued : w.taken ++ w.intake.queue.waiting = w.receptions.reverse.flatMap Reception.handed

/-- A new client has made no connection. -/
theorem exact_start (settings : ClientSettings) (capacity : Nat) :
    (start settings capacity).Exact :=
  ⟨.apart rfl nofun, rfl⟩

/-- What a client hands over leaves the consumer. -/
theorem foldl_receive_hasConsumer (q : PayloadQueue) (effects : List Effect) :
    (effects.foldl Intake.receive q).hasConsumer = q.hasConsumer := by
  induction effects generalizing q with
  | nil => rfl
  | cons effect effects ih =>
    rw [List.foldl_cons, ih]
    cases effect <;> rfl

/-- The parts of a step of the session. -/
theorem step_parts {i i' : Intake} {now : Nat} {e : Event} {effects : List Effect}
    (h : i.step now e = some (i', effects)) :
    Intake.admits i.queue e = true ∧ i.client.step now e = some (i'.client, effects) ∧
      i'.queue = effects.foldl Intake.receive i.queue := by
  unfold Intake.step at h
  split at h
  · rename_i hadmits
    obtain ⟨⟨c, effects'⟩, hstep, hsame⟩ := Option.map_eq_some_iff.mp h
    cases hsame
    exact ⟨hadmits, hstep, rfl⟩
  · exact absurd h (by simp)

/-- A step of the session keeps what is handed over exact. -/
theorem Exact.step {w : Receiving} (h : w.Exact) {now : Nat} {e : Event} {i : Intake}
    {effects : List Effect} (hstep : w.intake.step now e = some (i, effects))
    (hconsumer : w.intake.queue.hasConsumer = true) :
    Exact ⟨i, w.record effects (.client (.step now e)), w.taken⟩ := by
  obtain ⟨hadmits, hclient, hqueue⟩ := step_parts hstep
  have hwaiting : i.queue.waiting =
      w.intake.queue.waiting ++ effects.filterMap Effect.queued? := by
    rw [hqueue, Intake.foldl_receive_waiting]
  have hstays : e ≠ .abandoned := by
    rintro rfl
    exact absurd hadmits (by simp [Intake.admits, hconsumer])
  have hqueued := h.queued
  cases h.connections with
  | apart hlink hover =>
    rcases Reception.begins_or_apart hlink hclient with
      ⟨session, hsession, rfl, hkeeps⟩ | ⟨hsession, hlink', hhanded, hnoted⟩
    · -- a new connection, which has handed nothing over
      have hrecord : w.record [] (.client (.step now e)) = .begin session :: w.receptions := by
        simp only [record, hsession]
      refine ⟨.stands _ _ hrecord hkeeps hover, ?_⟩
      rw [hrecord, hwaiting, List.reverse_cons, List.flatMap_append, ← hqueued]
      simp [Reception.begin]
    · have hrecord : w.record effects (.client (.step now e)) = w.receptions := by
        simp only [record, hsession]
        rw [funext hnoted]
        cases w.receptions <;> rfl
      refine ⟨.apart hlink' (hrecord ▸ hover), ?_⟩
      rw [hrecord, hwaiting, hhanded, List.append_nil]
      exact hqueued
  | stands r earlier hreceptions hkeeps hover =>
    have hrecord : w.record effects (.client (.step now e)) =
        r.note w.intake.client.phase e effects :: earlier := by
      simp only [record, hkeeps.session?_eq_none hclient, hreceptions, List.modifyHead_cons]
    refine ⟨?_, ?_⟩
    · rcases hkeeps.step hstays hclient with hkeeps' | ⟨hlink', hover'⟩
      · exact .stands _ _ hrecord hkeeps' hover
      · refine .apart hlink' ?_
        rw [hrecord]
        exact List.forall_mem_cons.mpr ⟨hover', hover⟩
    · rw [hreceptions, List.reverse_cons, List.flatMap_append, List.flatMap_singleton] at hqueued
      rw [hrecord, hwaiting, ← List.append_assoc, hqueued, List.reverse_cons, List.flatMap_append,
        List.flatMap_singleton, List.append_assoc]
      rfl

/-- A call of the owner leaves what the session waits for, or starts it; then there was no
connection before. -/
theorem perform_call_phase {c c' : Client} (h : c.Orderly) {m : ClientMove} {effects : List Effect}
    (hm : ∀ now e, m ≠ .step now e) (hperform : c.perform m = some (c', effects)) :
    c'.phase = c.phase ∨ c.phase.link = .down ∧ c'.phase.link = .down := by
  cases m with
  | step now e => exact absurd rfl (hm now e)
  | subscribe i =>
    cases hperform
    exact Or.inl (Client.subscribe_phase c i)
  | unsubscribe i =>
    cases hperform
    exact Or.inl (Client.unsubscribe_phase c i)
  | connect =>
    simp only [Client.perform] at hperform
    split at hperform
    · rename_i hconnect
      cases hperform
      obtain ⟨-, hfresh, rfl⟩ := Client.connect_eq_ok hconnect
      exact Or.inr ⟨by rw [h.fresh hfresh]; rfl, rfl⟩
    · exact absurd hperform (by simp)
  | requestStop =>
    cases hperform
    exact Or.inl rfl
  | close =>
    cases hperform
    exact Or.inl (Client.close_phase c)

/-- A call of the owner keeps what is handed over exact. -/
theorem Exact.call {w : Receiving} (h : w.Exact) (horderly : w.intake.client.Orderly)
    {m : ClientMove} (hm : ∀ now e, m ≠ .step now e) {c : Client} {effects : List Effect}
    (hperform : w.intake.client.perform m = some (c, effects)) :
    Exact ⟨{ w.intake with client := c }, w.receptions, w.taken⟩ := by
  refine ⟨?_, h.queued⟩
  rcases perform_call_phase horderly hm hperform with hphase | ⟨hdown, hdown'⟩
  · cases h.connections with
    | apart hlink hover => exact .apart (hphase ▸ hlink) hover
    | stands r earlier hreceptions hkeeps hover =>
      exact .stands r earlier hreceptions (hphase ▸ hkeeps) hover
  · cases h.connections with
    | apart _ hover => exact .apart hdown' hover
    | stands r earlier _ hkeeps _ =>
      have hsession := hkeeps.session
      rw [hdown] at hsession
      exact absurd hsession (by simp [Link.session?])

/-- What taking a payload leaves alone. -/
theorem pop?_leaves {i i' : Intake} {p : SessionPayload} (hpop : i.pop? = some (p, i')) :
    i'.client = i.client ∧ i'.queue.hasConsumer = i.queue.hasConsumer := by
  obtain ⟨⟨p', q⟩, hqueue, hsame⟩ := Option.map_eq_some_iff.mp hpop
  cases hsame
  unfold PayloadQueue.pop? at hqueue
  split at hqueue
  · exact absurd hqueue (by simp)
  · cases hqueue
    exact ⟨rfl, rfl⟩

/-- A payload that is taken was the oldest that waited. -/
theorem Exact.pop {w : Receiving} (h : w.Exact) {p : SessionPayload} {i : Intake}
    (hpop : w.intake.pop? = some (p, i)) : Exact ⟨i, w.receptions, w.taken ++ w.takes .pop⟩ := by
  obtain ⟨⟨p', q⟩, hqueue, hsame⟩ := Option.map_eq_some_iff.mp hpop
  cases hsame
  unfold PayloadQueue.pop? at hqueue
  split at hqueue
  · exact absurd hqueue (by simp)
  · rename_i p rest hwaiting
    cases hqueue
    refine ⟨?_, ?_⟩
    · cases h.connections with
      | apart hlink hover => exact .apart hlink hover
      | stands r earlier hreceptions hkeeps hover =>
        exact .stands r earlier hreceptions hkeeps hover
    · rw [← h.queued]
      simp only [takes, hwaiting, List.take_succ_cons, List.take_zero, List.append_assoc,
        List.singleton_append]

/-- What holds of a client and its records at any time. -/
structure Steady (w : Receiving) : Prop where
  orderly : w.intake.client.Orderly
  delivers : w.intake.queue.hasConsumer = true → w.Exact

/-- **A move keeps a client steady.** -/
theorem Steady.move {w w' : Receiving} (h : w.Steady) {m : IntakeMove}
    (hmove : w.move m = some w') : w'.Steady := by
  obtain ⟨⟨i, effects⟩, hperform, rfl⟩ := Option.map_eq_some_iff.mp hmove
  cases m with
  | client m =>
    by_cases hm : ∃ now e, m = .step now e
    · obtain ⟨now, e, rfl⟩ := hm
      obtain ⟨-, hclient, hqueue⟩ := step_parts hperform
      refine ⟨h.orderly.step hclient, fun hconsumer => ?_⟩
      rw [hqueue, foldl_receive_hasConsumer] at hconsumer
      simp only [takes, List.append_nil]
      exact (h.delivers hconsumer).step hperform hconsumer
    · have hcall : ∀ now e, m ≠ .step now e := fun now e heq => hm ⟨now, e, heq⟩
      have hintake : ∃ c, w.intake.client.perform m = some (c, effects) ∧
          i = { w.intake with client := c } := by
        unfold Intake.perform at hperform
        split at hperform
        · rename_i heq
          exact absurd (IntakeMove.client.inj heq) (hcall _ _)
        · rename_i heq
          cases heq
          obtain ⟨⟨c, effects'⟩, hclient, hsame⟩ := Option.map_eq_some_iff.mp hperform
          cases hsame
          exact ⟨c, hclient, rfl⟩
        · rename_i heq
          exact absurd heq IntakeMove.noConfusion
        · rename_i heq
          exact absurd heq IntakeMove.noConfusion
      obtain ⟨c, hclient, rfl⟩ := hintake
      have hrecord : w.record effects (.client m) = w.receptions := by
        unfold record
        split
        · rename_i heq
          exact absurd (IntakeMove.client.inj heq) (hcall _ _)
        · rfl
      refine ⟨h.orderly.perform hclient, fun hconsumer => ?_⟩
      simp only [hrecord, takes, List.append_nil]
      exact (h.delivers hconsumer).call h.orderly hcall hclient
  | pop =>
    obtain ⟨⟨p, i'⟩, hpop, hsame⟩ := Option.map_eq_some_iff.mp hperform
    cases hsame
    obtain ⟨hclient, hconsumer⟩ := pop?_leaves hpop
    exact ⟨hclient ▸ h.orderly, fun hstays => (h.delivers (hconsumer ▸ hstays)).pop hpop⟩
  | abandon =>
    cases hperform
    exact ⟨h.orderly, fun hconsumer => absurd hconsumer Bool.false_ne_true⟩

/-- A run keeps a client steady. -/
theorem Steady.run {w w' : Receiving} (h : w.Steady) {moves : List IntakeMove}
    (hrun : w.run moves = some w') : w'.Steady := by
  apply foldlM_keeps _ h hrun
  intro m _ u u' hu hmove
  exact hu.move hmove

/-- **What a client hands over is exact on every connection**, however many there are and wherever
their text is cut, as long as the consumer stays. -/
theorem run_exact {settings : ClientSettings} {capacity : Nat} {moves : List IntakeMove}
    {w : Receiving} (hrun : (start settings capacity).run moves = some w)
    (hconsumer : w.intake.queue.hasConsumer = true) : w.Exact :=
  (Steady.run ⟨Client.orderly_new settings, fun _ => exact_start settings capacity⟩ hrun).delivers
    hconsumer

/-- The moves that open a session. -/
def openingMoves (session : String) (now : Nat) : List IntakeMove :=
  [.client (.step now (.dialed session)), .client (.step now .written),
    .client (.step now .written), .client (.step now .goOn), .client (.step now .goOn)]

/-- A run over two connections.  The first completes a frame that was cut, and cannot send back the
heartbeat after it, with another frame and a part of one behind; the second gets two frames while
the payload of the first still waits. -/
def cutShortMoves : List IntakeMove :=
  let later := 2 * Clock.second
  [.client .connect, .client (.step 0 .goOn)] ++ openingMoves "one" 0 ++
    [.client (.step 1 (.received "~m~5~m~he".toList)),
      .client (.step 2 (.received "llo~m~4~m~~h~1~m~3~m~abc~m~".toList)),
      .client (.step 3 .taken), .client (.step 4 .writeFailed), .client (.step 5 .closed),
      .client (.step later .timeUp)] ++ openingMoves "two" later ++
    [.client (.step later (.received "~m~4~m~~h~2~m~3~m~def".toList)),
      .client (.step later .written), .client (.step later .taken), .pop]

set_option synthInstance.maxSize 256 in
/-- The first connection handed over the payload before the heartbeat, and that is taken; the second
sent its heartbeat back, and its payload waits. -/
theorem run_exact_cutShortMoves : ∃ w,
    (start ⟨none, ["lp"], 30 * Clock.second, 60 * Clock.second, .standard⟩ 4).run cutShortMoves =
        some w ∧
      w.intake.queue.hasConsumer = true ∧ w.taken = [⟨"one", "hello".toList⟩] ∧
      w.intake.queue.waiting = [⟨"two", "def".toList⟩] ∧
      w.receptions.map Reception.echoed = [["~m~4~m~~h~2".toList], []] ∧ w.Exact := by
  have h : ((start ⟨none, ["lp"], 30 * Clock.second, 60 * Clock.second, .standard⟩ 4).run
      cutShortMoves).map (fun w => (w.intake.queue.hasConsumer, w.taken, w.intake.queue.waiting,
        w.receptions.map Reception.echoed)) =
      some (true, [⟨"one", "hello".toList⟩], [⟨"two", "def".toList⟩],
        [["~m~4~m~~h~2".toList], []]) := by decide +kernel
  obtain ⟨w, hrun, hseen⟩ := Option.map_eq_some_iff.mp h
  simp only [Prod.mk.injEq] at hseen
  obtain ⟨hconsumer, htaken, hwaiting, hechoed⟩ := hseen
  exact ⟨w, hrun, hconsumer, htaken, hwaiting, hechoed, run_exact hrun hconsumer⟩

end Receiving

end CandleFeed

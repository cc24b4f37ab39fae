import CandleFeed.Proofs.Session.States

/-!
# What a step does to the schedule

Seen from the schedule of attempts, a phase is some **`Progress`**: an attempt is being made, its
session runs, it has failed, or the next one is waited for.  An onlooker notes a **`Mark`** of
everything that counts (**`Client.noted`**): dials, the beginning of running, the moment in which a
connection begins to count as stable, failures and what they happened in (**`Failing`**), waits and
their ends, and what is counted.

**`Client.Advance`** says everything that a step can do in these terms, to the progress, to the
number of failures and to the marks, and `step_advance` is the one place that goes through the
phases.
-/

namespace CandleFeed

/-- How far the schedule of attempts has come. -/
inductive Progress where
  /-- No attempt has been made. -/
  | before
  /-- An attempt is being made; its session does not run yet. -/
  | opening
  /-- The session runs; when the connection will count as stable, until it does. -/
  | running (stability : Option Nat)
  /-- The attempt has failed. -/
  | retrying
  /-- The next attempt is waited for. -/
  | waiting (deadline : Nat)
  /-- There will be no attempt any more. -/
  | over
deriving DecidableEq

/-- What an attempt failed in. -/
inductive Failing where
  /-- Dialing. -/
  | dialing
  /-- A write. -/
  | writing
  /-- Listening; whether the connection could have begun to count as stable instead. -/
  | listening (overdue : Bool)
deriving DecidableEq

/-- What an onlooker notes of the schedule. -/
inductive Mark where
  /-- The client dials. -/
  | dialed
  /-- The session begins to run. -/
  | ran (now : Nat)
  /-- The connection begins to count as stable. -/
  | settled (now : Nat)
  /-- The attempt fails. -/
  | failed (failing : Failing) (now : Nat)
  /-- The client begins to wait. -/
  | waits (now deadline : Nat)
  /-- The wait has run to its end; whether a stop has been requested by then. -/
  | woke (now : Nat) (stopping : Bool)
  /-- Another attempt is counted. -/
  | counted
deriving DecidableEq

namespace AfterWrite

/-- How far an attempt has come that writes. -/
def progress : AfterWrite → Progress
  | greet _ | resubscribe _ => .opening
  | listen l | process l _ => .running l.stability

end AfterWrite

namespace Phase

/-- How far the schedule has come in a phase. -/
def progress : Phase → Progress
  | idle | starting => .before
  | dialing | opened _ | subscribed _ => .opening
  | writing _ _ _ next => next.progress
  | listening _ l | delivering _ l _ _ => .running l.stability
  | closing .retry _ => .retrying
  | waiting deadline => .waiting deadline
  | closing .stop _ | finished | broken => .over

/-- What is noted of a phase when it is entered. -/
def entryMark? (now : Nat) : Phase → Option Mark
  | waiting deadline => some (.waits now deadline)
  | _ => none

/-- What an attempt fails in with an event, if it does. -/
def failing? (overdue : Bool) : Phase → Event → Option Failing
  | dialing, .refused => some .dialing
  | writing _ _ _ _, .writeFailed => some .writing
  | writing _ _ _ _, .timeUp => some .writing
  | listening _ _, .timeUp => some (.listening overdue)
  | listening _ _, .lost => some (.listening overdue)
  | listening _ l, .received chunk =>
    match Frame.feed l.pending chunk with
    | (.error _, _) => some (.listening overdue)
    | (.ok _, _) => none
  | _, _ => none

/-- What is noted of an event in a phase. -/
def eventMark? (now : Nat) (stopping overdue : Bool) : Phase → Event → Option Mark
  | subscribed _, .goOn => some (.ran now)
  | listening _ _, .stable => some (.settled now)
  | waiting _, .timeUp => some (.woke now stopping)
  | p, e => (p.failing? overdue e).map (.failed · now)

/-- Nothing is noted of a phase that is entered after the last attempt. -/
theorem entryMark?_of_over {p : Phase} (h : p.progress = .over) (now : Nat) :
    p.entryMark? now = none := by
  cases p <;> first | rfl | exact absurd h Progress.noConfusion

end Phase

/-- What is noted of an effect. -/
def Effect.mark? : Effect → Option Mark
  | dial => some .dialed
  | counted .reconnects => some .counted
  | _ => none

namespace Client

/-- What is noted of an event.  A connection is overdue to count as stable if it could begin to. -/
def mark? (c : Client) (now : Nat) (e : Event) : Option Mark :=
  c.phase.eventMark? now c.stopRequested (c.step now .stable).isSome e

/-- What is noted of a step to a client with effects, the latest first. -/
def noted (c : Client) (now : Nat) (e : Event) (c' : Client) (effects : List Effect) : List Mark :=
  (c'.phase.entryMark? now).toList ++ (effects.filterMap Effect.mark?).reverse ++
    (c.mark? now e).toList

/-- **What a step back to waiting does**, unless the client has been asked to stop. -/
inductive Rests (c : Client) (now : Nat) (c' : Client) : List Mark → Prop
  | ends (hto : c'.phase.progress = .over) : Rests c now c' []
  | waits {deadline : Nat} (hto : c'.phase.progress = .waiting deadline)
      (hdeadline : deadline = Clock.wakeUp now (c.settings.backoff.delay c.failures))
      (hfailures : c'.failures = min (c.failures + 1) mostFailures) :
      Rests c now c' [.waits now deadline]

/-- **What a step does to the schedule**; the marks are the latest first. -/
inductive Advance (c : Client) (now : Nat) (c' : Client) : List Mark → Prop
  /-- The attempt goes on as it was. -/
  | stays (hto : c'.phase.progress = c.phase.progress) (hfailures : c'.failures = c.failures) :
      Advance c now c' []
  /-- There will be no more attempts. -/
  | ends (hto : c'.phase.progress = .over) : Advance c now c' []
  /-- The first attempt is made. -/
  | dials (hfrom : c.phase.progress = .before) (hto : c'.phase.progress = .opening)
      (hfailures : c'.failures = c.failures) : Advance c now c' [.dialed]
  /-- The session begins to run. -/
  | runs (hfrom : c.phase.progress = .opening)
      (hto : c'.phase.progress =
        .running (some (Clock.wakeUp now c.settings.stabilityWindow)))
      (hfailures : c'.failures = c.failures) : Advance c now c' [.ran now]
  /-- The connection begins to count as stable. -/
  | settles {deadline : Nat} (hfrom : c.phase.progress = .running (some deadline))
      (hdue : deadline ≤ now) (hto : c'.phase.progress = .running none)
      (hfailures : c'.failures = 0) : Advance c now c' [.settled now]
  /-- There is no connection. -/
  | refused {marks : List Mark} (hfrom : c.phase.progress = .opening)
      (hrests : Rests c now c' marks) : Advance c now c' (marks ++ [.failed .dialing now])
  /-- A write fails. -/
  | stuck (hfrom : c.phase.progress = .opening ∨ ∃ d, c.phase.progress = .running d)
      (hto : c'.phase.progress = .retrying) (hfailures : c'.failures = c.failures) :
      Advance c now c' [.failed .writing now]
  /-- The connection fails; if it was not overdue to count as stable, then it was too early. -/
  | fails {overdue : Bool} {stability : Option Nat} (hfrom : c.phase.progress = .running stability)
      (hearly : overdue = false → ∀ deadline, stability = some deadline → now < deadline)
      (hto : c'.phase.progress = .retrying) (hfailures : c'.failures = c.failures) :
      Advance c now c' [.failed (.listening overdue) now]
  /-- The connection of a failed attempt is closed. -/
  | rests {marks : List Mark} (hfrom : c.phase.progress = .retrying)
      (hrests : Rests c now c' marks) : Advance c now c' marks
  /-- A wait has run to its end, and the client has been asked to stop. -/
  | wakesLast {deadline : Nat} (hfrom : c.phase.progress = .waiting deadline)
      (hdue : deadline ≤ now) (hto : c'.phase.progress = .over) :
      Advance c now c' [.counted, .woke now true]
  /-- A wait has run to its end, and the next attempt is made. -/
  | wakes {deadline : Nat} (hfrom : c.phase.progress = .waiting deadline)
      (hdue : deadline ≤ now) (hto : c'.phase.progress = .opening)
      (hfailures : c'.failures = c.failures) :
      Advance c now c' [.dialed, .counted, .woke now false]

/-! ## The parts of a step -/

@[simp] theorem publish_failures (c : Client) (s : ConnectionState) :
    (c.publish s).failures = c.failures := by unfold publish; split <;> rfl

@[simp] theorem publish_settings (c : Client) (s : ConnectionState) :
    (c.publish s).settings = c.settings := by unfold publish; split <;> rfl

/-- What opening a session leaves alone. -/
theorem greet_progress (c : Client) (now : Nat) (session : String) (rest : List Command) :
    (c.greet now session rest).phase.progress = .opening ∧
      (c.greet now session rest).phase.entryMark? now = none ∧
      (c.greet now session rest).failures = c.failures ∧
      (c.greet now session rest).settings = c.settings := by
  cases rest <;> exact ⟨rfl, rfl, rfl, rfl⟩

/-- What sending the subscriptions leaves alone. -/
theorem resubscribe_progress (c : Client) (now : Nat) (session : String) (rest : List Instrument) :
    (c.resubscribe now session rest).phase.progress = .opening ∧
      (c.resubscribe now session rest).phase.entryMark? now = none ∧
      (c.resubscribe now session rest).failures = c.failures ∧
      (c.resubscribe now session rest).settings = c.settings := by
  cases rest <;> exact ⟨rfl, rfl, rfl, rfl⟩

/-- Going through payloads, the session keeps running, or breaks down. -/
theorem process_progress (c : Client) (now : Nat) (session : String) (l : Listening)
    (rest : List (List Char)) :
    ((c.process now session l rest).phase.progress = .running l.stability ∨
        (c.process now session l rest).phase.progress = .over) ∧
      (c.process now session l rest).phase.entryMark? now = none ∧
      (c.process now session l rest).failures = c.failures ∧
      (c.process now session l rest).settings = c.settings := by
  unfold process
  split
  · split
    · exact ⟨Or.inl rfl, rfl, rfl, rfl⟩
    · exact ⟨Or.inr rfl, rfl, rfl, rfl⟩
  · split
    · exact ⟨Or.inl rfl, rfl, rfl, rfl⟩
    · exact ⟨Or.inl rfl, rfl, rfl, rfl⟩

/-- A session that backs off waits, or ends. -/
theorem backOff_rests (c : Client) (now : Nat) :
    Rests c now (c.backOff now) ((c.backOff now).phase.entryMark? now).toList ∧
      (c.backOff now).settings = c.settings := by
  unfold backOff
  split
  · exact ⟨.ends rfl, publish_settings c _⟩
  · exact ⟨.waits rfl rfl rfl, publish_settings c _⟩

variable {c c' : Client} {now : Nat} {e : Event} {effects : List Effect}

theorem mark?_of_phase {p : Phase} (h : c.phase = p) (now : Nat) (e : Event) :
    c.mark? now e = p.eventMark? now c.stopRequested (c.step now .stable).isSome e := by
  rw [mark?, h]

/-- What is noted of a step of which no effect is noted. -/
theorem noted_of_effects {m : Option Mark} (hmark : c.mark? now e = m)
    (heffects : effects.filterMap Effect.mark? = []) :
    c.noted now e c' effects = (c'.phase.entryMark? now).toList ++ m.toList := by
  unfold noted
  rw [hmark, heffects, List.reverse_nil, List.append_nil]

/-- A step of which nothing is noted, and with which an attempt goes on as it was. -/
theorem advance_stays (hmark : c.mark? now e = none)
    (heffects : effects.filterMap Effect.mark? = [])
    (hentry : c'.phase.entryMark? now = none) (hto : c'.phase.progress = c.phase.progress)
    (hfailures : c'.failures = c.failures) (hsettings : c'.settings = c.settings) :
    c'.settings = c.settings ∧ Advance c now c' (c.noted now e c' effects) := by
  rw [noted_of_effects hmark heffects, hentry]
  exact ⟨hsettings, .stays hto hfailures⟩

/-- A step of which nothing is noted, and after which there are no more attempts. -/
theorem advance_ends (hmark : c.mark? now e = none) (heffects : effects.filterMap Effect.mark? = [])
    (hto : c'.phase.progress = .over) (hsettings : c'.settings = c.settings) :
    c'.settings = c.settings ∧ Advance c now c' (c.noted now e c' effects) := by
  rw [noted_of_effects hmark heffects, Phase.entryMark?_of_over hto]
  exact ⟨hsettings, .ends hto⟩

/-- A session that goes through payloads stays as it is, or breaks down. -/
theorem advance_process {session : String} {l : Listening} {rest : List (List Char)}
    (hfrom : c.phase.progress = .running l.stability) (hmark : c.mark? now e = none)
    (heffects : effects.filterMap Effect.mark? = []) :
    (c.process now session l rest).settings = c.settings ∧
      Advance c now (c.process now session l rest)
        (c.noted now e (c.process now session l rest) effects) := by
  obtain ⟨hto | hto, hentry, hfailures, hsettings⟩ := process_progress c now session l rest
  · exact advance_stays hmark heffects hentry (hto.trans hfrom.symm) hfailures hsettings
  · exact advance_ends hmark heffects hto hsettings

/-- A write that is complete is followed by what comes after it. -/
theorem advance_resume {session : String} {o : Outgoing} {deadline : Nat} {next : AfterWrite}
    (hphase : c.phase = .writing session o deadline next) (hmark : c.mark? now e = none) :
    (c.resume now session next).1.settings = c.settings ∧
      Advance c now (c.resume now session next).1
        (c.noted now e (c.resume now session next).1
          (.wrote o :: (c.resume now session next).2)) := by
  have hprogress : c.phase.progress = next.progress := congrArg Phase.progress hphase
  cases next with
  | greet rest =>
    obtain ⟨hto, hentry, hfailures, hsettings⟩ := greet_progress c now session rest
    exact advance_stays hmark rfl hentry (hto.trans hprogress.symm) hfailures hsettings
  | resubscribe rest =>
    obtain ⟨hto, hentry, hfailures, hsettings⟩ := resubscribe_progress c now session rest
    exact advance_stays hmark rfl hentry (hto.trans hprogress.symm) hfailures hsettings
  | listen l => exact advance_stays hmark rfl rfl hprogress.symm rfl rfl
  | process l rest => exact advance_process hprogress hmark rfl

/-- A write that fails. -/
theorem advance_stuck {session : String} {o : Outgoing} {deadline : Nat} {next : AfterWrite}
    (hphase : c.phase = .writing session o deadline next)
    (hmark : c.mark? now e = some (.failed .writing now)) :
    (c.shut now .retry).settings = c.settings ∧
      Advance c now (c.shut now .retry) (c.noted now e (c.shut now .retry) []) := by
  have hprogress : c.phase.progress = next.progress := congrArg Phase.progress hphase
  rw [noted_of_effects hmark rfl]
  refine ⟨rfl, .stuck ?_ rfl rfl⟩
  rw [hprogress]
  cases next with
  | greet rest => exact Or.inl rfl
  | resubscribe rest => exact Or.inl rfl
  | listen l => exact Or.inr ⟨_, rfl⟩
  | process l rest => exact Or.inr ⟨_, rfl⟩

/-- A connection that fails while the session listens. -/
theorem advance_fails {session : String} {l : Listening} (hphase : c.phase = .listening session l)
    (hmark : c.mark? now e = some (.failed (.listening (c.step now .stable).isSome) now)) :
    (c.shut now .retry).settings = c.settings ∧
      Advance c now (c.shut now .retry) (c.noted now e (c.shut now .retry) []) := by
  rw [noted_of_effects hmark rfl]
  refine ⟨rfl, .fails (congrArg Phase.progress hphase) (fun hearly d hd => ?_) rfl rfl⟩
  by_contra hdue
  have hstable : (c.step now .stable).isSome = true := by
    simp [step, isDue, stability, react, hphase, hd, Nat.not_lt.mp hdue]
  exact absurd (hearly.symm.trans hstable) Bool.noConfusion

/-- A wait that ends is followed by an attempt, or by the end. -/
theorem advance_wakes {deadline : Nat} (hphase : c.phase = .waiting deadline)
    (hdue : deadline ≤ now) (hmark : c.mark? now e = some (.woke now c.stopRequested)) :
    c.attempt.1.settings = c.settings ∧
      Advance c now c.attempt.1
        (c.noted now e c.attempt.1 (.counted .reconnects :: c.attempt.2)) := by
  have hprogress : c.phase.progress = .waiting deadline := congrArg Phase.progress hphase
  unfold noted
  rw [hmark]
  unfold attempt
  split
  · rename_i hstop
    rw [hstop]
    exact ⟨publish_settings c _, .wakesLast hprogress hdue rfl⟩
  · rename_i hgoes
    rw [Bool.not_eq_true] at hgoes
    rw [hgoes]
    exact ⟨publish_settings c _, .wakes hprogress hdue rfl (publish_failures c _)⟩

/-! ## Steps -/

/-- **A step takes the schedule one turn further**, and leaves the settings alone. -/
theorem step_advance (hstep : c.step now e = some (c', effects)) :
    c'.settings = c.settings ∧ Advance c now c' (c.noted now e c' effects) := by
  have hreact := react_of_step hstep
  have hdue : c.isDue now e = true := by
    unfold step at hstep
    split at hstep
    · assumption
    · exact absurd hstep (by simp)
  unfold react at hreact
  split at hreact
  all_goals rename_i hphase
  -- the last case is that of no step
  on_goal -1 => exact absurd hreact (by simp)
  all_goals have hmark := mark?_of_phase hphase now
  all_goals have hprogress := congrArg Phase.progress hphase
  · -- starting
    unfold attempt at hreact
    split at hreact
    · cases hreact
      exact advance_ends (hmark _) rfl rfl (publish_settings c _)
    · cases hreact
      unfold noted
      rw [hmark]
      exact ⟨publish_settings c _, .dials hprogress rfl (publish_failures c _)⟩
  · -- opened
    cases hreact
    obtain ⟨hto, hentry, hfailures, hsettings⟩ := resubscribe_progress
      ({ c with changes := [] }.publish .resubscribing) now _
      ({ c with changes := [] }.publish .resubscribing).registry.order
    exact advance_stays (hmark _) rfl hentry (hto.trans hprogress.symm)
      (hfailures.trans (publish_failures _ _)) (hsettings.trans (publish_settings _ _))
  · -- subscribed
    cases hreact
    rw [noted_of_effects (hmark _) rfl]
    exact ⟨publish_settings c _, .runs hprogress rfl (publish_failures c _)⟩
  · -- a connection stands
    cases hreact
    obtain ⟨hto, hentry, hfailures, hsettings⟩ := greet_progress (c.publish .connected) now _
      ((c.publish .connected).greeting _)
    exact advance_stays (hmark _) rfl hentry (hto.trans hprogress.symm)
      (hfailures.trans (publish_failures _ _)) (hsettings.trans (publish_settings _ _))
  · -- there is no connection
    cases hreact
    obtain ⟨hrests, hsettings⟩ := c.backOff_rests now
    rw [noted_of_effects (hmark _) rfl]
    exact ⟨hsettings, .refused hprogress hrests⟩
  · cases hreact
    exact advance_ends (hmark _) rfl rfl (publish_settings c _)
  · -- a write is complete
    cases hreact
    exact advance_resume hphase (hmark _)
  iterate 2
    · cases hreact
      exact advance_stuck hphase (hmark _)
  iterate 2
    · cases hreact
      exact advance_ends (hmark _) rfl rfl rfl
  · cases hreact
    exact advance_fails hphase (hmark _)
  · -- a change
    split at hreact
    · exact absurd hreact (by simp)
    · cases hreact
      exact advance_stays (hmark _) rfl rfl hprogress.symm rfl rfl
  · -- a stable connection
    obtain ⟨d, hd, hsame⟩ := Option.map_eq_some_iff.mp hreact
    cases hsame
    rw [noted_of_effects (hmark _) rfl]
    have hcome : d ≤ now := by
      simpa [isDue, stability, hphase, hd] using hdue
    exact ⟨rfl, .settles (hprogress.trans (congrArg Progress.running hd)) hcome rfl rfl⟩
  · -- a chunk
    split at hreact
    · rename_i hfeed
      cases hreact
      refine advance_fails hphase ?_
      rw [hmark]
      simp only [Phase.eventMark?, Phase.failing?, hfeed, Option.map_some]
    · rename_i hfeed
      cases hreact
      refine advance_process hprogress ?_ rfl
      rw [hmark]
      simp only [Phase.eventMark?, Phase.failing?, hfeed, Option.map_none]
  · cases hreact
    exact advance_fails hphase (hmark _)
  · cases hreact
    exact advance_process hprogress (hmark _) rfl
  · cases hreact
    exact advance_ends (hmark _) rfl rfl rfl
  iterate 2
    · cases hreact
      exact advance_ends (hmark _) rfl rfl (publish_settings c _)
  iterate 2
    · cases hreact
      obtain ⟨hrests, hsettings⟩ := c.backOff_rests now
      rw [noted_of_effects (m := none) (hmark _) rfl, Option.toList_none, List.append_nil]
      exact ⟨hsettings, .rests hprogress hrests⟩
  · -- a wait has run to its end
    cases hreact
    refine advance_wakes hphase ?_ (hmark _)
    simpa [isDue, deadline, hphase] using hdue
  · -- a wait is cut short, since the client has been asked to stop
    have hstop : c.attempt = (c.finish, []) := if_pos hdue
    rw [hstop] at hreact
    cases hreact
    exact advance_ends (hmark _) rfl rfl (publish_settings c _)

/-! ## The owner's calls -/

/-- What queueing a change leaves alone. -/
theorem queueChange_progress (c : Client) (change : SubscriptionChange) :
    (c.queueChange change).phase = c.phase ∧ (c.queueChange change).failures = c.failures ∧
      (c.queueChange change).settings = c.settings := by
  unfold queueChange
  split <;> exact ⟨rfl, rfl, rfl⟩

/-- **The owner's calls leave the schedule alone.** -/
theorem call_progress (h : c.Orderly) {m : ClientMove} (hm : ∀ now e, m ≠ .step now e)
    (hperform : c.perform m = some (c', effects)) :
    c'.phase.progress = c.phase.progress ∧ c'.failures = c.failures ∧
      c'.settings = c.settings := by
  cases m with
  | step now e => exact absurd rfl (hm now e)
  | subscribe i =>
    cases hperform
    unfold subscribe
    split
    split
    · obtain ⟨hphase, hfailures, hsettings⟩ :=
        queueChange_progress { c with registry := _ } (.add i)
      exact ⟨congrArg Phase.progress hphase, hfailures, hsettings⟩
    · exact ⟨rfl, rfl, rfl⟩
  | unsubscribe i =>
    cases hperform
    unfold unsubscribe
    split
    split
    · obtain ⟨hphase, hfailures, hsettings⟩ :=
        queueChange_progress { c with registry := _ } (.remove i)
      exact ⟨congrArg Phase.progress hphase, hfailures, hsettings⟩
    · exact ⟨rfl, rfl, rfl⟩
  | connect =>
    simp only [perform] at hperform
    split at hperform
    · rename_i hconnect
      cases hperform
      obtain ⟨-, hfresh, rfl⟩ := connect_eq_ok hconnect
      -- a session that waits to be started has made no attempt either
      exact ⟨by rw [h.fresh hfresh]; rfl, rfl, rfl⟩
    · exact absurd hperform (by simp)
  | requestStop =>
    cases hperform
    exact ⟨rfl, rfl, rfl⟩
  | close =>
    cases hperform
    exact ⟨congrArg Phase.progress c.close_phase, publish_failures c _, publish_settings c _⟩

end Client

end CandleFeed

import CandleFeed.Session.Client

/-!
# What a step does to the subscriptions

Seen from the subscriptions, a phase has a **`Link`**: no connection, one whose session is being
opened, or one for which the list of subscriptions has been taken; and it has frames that it goes on
to write (**`Phase.unwritten`**).  **`Client.Turn`** says everything that a step can do in these
terms: what becomes of the link, what is written, and what becomes of the queue and of the state.
The session waits in many phases, and `step_turn` is the one place that goes through them.
-/

namespace CandleFeed

/-- How far a connection has come. -/
inductive Link where
  /-- There is none, or it is given up. -/
  | down
  /-- Its session is being opened. -/
  | opening (session : String)
  /-- The list of subscriptions has been taken for it. -/
  | up (session : String)

namespace SubscriptionChange

/-- What is to be written of a change on a session. -/
def on (session : String) : SubscriptionChange → Outgoing
  | add i => .command (.addSymbol session i)
  | remove i => .command (.removeSymbol session i)

/-- The command of a change is what is to be written of it. -/
theorem command_eq_on (session : String) (change : SubscriptionChange) :
    .command (change.command session) = change.on session := by cases change <;> rfl

end SubscriptionChange

namespace Outgoing

/-- It changes the subscriptions. -/
def isChange : Outgoing → Bool
  | command (.addSymbol _ _) => true
  | command (.removeSymbol _ _) => true
  | _ => false

/-- Those that change the subscriptions. -/
def changesIn (outgoing : List Outgoing) : List Outgoing := outgoing.filter isChange

@[simp] theorem changesIn_nil : changesIn [] = [] := rfl

@[simp] theorem changesIn_append (os os' : List Outgoing) :
    changesIn (os ++ os') = changesIn os ++ changesIn os' := List.filter_append _ _

/-- A change on a session is one. -/
@[simp] theorem isChange_on (session : String) (change : SubscriptionChange) :
    isChange (change.on session) = true := by cases change <;> rfl

/-- Changes on a session are all changes. -/
@[simp] theorem changesIn_map_on (session : String) (changes : List SubscriptionChange) :
    changesIn (changes.map (·.on session)) = changes.map (·.on session) := by
  unfold changesIn
  rw [List.filter_eq_self]
  intro o ho
  obtain ⟨change, -, rfl⟩ := List.mem_map.mp ho
  exact isChange_on session change

end Outgoing

open Outgoing

/-- What goes on to be written after a write. -/
def AfterWrite.unwritten (session : String) : AfterWrite → List Outgoing
  | greet rest => rest.map .command
  | resubscribe rest => (rest.map SubscriptionChange.add).map (·.on session)
  | _ => []

namespace Phase

/-- How far the connection of a phase has come. -/
def link : Phase → Link
  | opened session => .opening session
  | writing session _ _ (.greet _) => .opening session
  | writing session _ _ _ => .up session
  | subscribed session => .up session
  | listening session _ => .up session
  | delivering session _ _ _ => .up session
  | _ => .down

/-- What a phase goes on to write. -/
def unwritten : Phase → List Outgoing
  | writing session o _ next => o :: next.unwritten session
  | _ => []

end Phase

/-- The name of the session on a connection that stands. -/
def Event.session? : Event → Option String
  | dialed session => some session
  | _ => none

/-- What effects have written. -/
def Effect.written (effects : List Effect) : List Outgoing :=
  effects.filterMap fun
    | wrote o => some o
    | _ => none

namespace Client

/-- With the event, the session takes the list of subscriptions. -/
def takesSubscriptions (c : Client) (e : Event) : Bool :=
  match c.phase, e with
  | .opened _, .goOn => true
  | _, _ => false

/-- **What a step does to the subscriptions.** -/
inductive Turn (c : Client) (e : Event) (c' : Client) (written : List Outgoing) : Prop
  /-- A connection stands, and its session begins to be opened. -/
  | connects (session : String) (hevent : e.session? = some session)
      (hlink' : c'.phase.link = .opening session) (hwritten : written = [])
      (hunwritten : changesIn c'.phase.unwritten = []) (hchanges : c'.changes = c.changes)
      (hstate : c'.state = if c.state = .closed then .closed else .connected)
  /-- The session goes on to be opened. -/
  | opens (session : String) (hevent : e.session? = none) (htakes : c.takesSubscriptions e = false)
      (hlink : c.phase.link = .opening session) (hlink' : c'.phase.link = .opening session)
      (hwritten : written ++ c'.phase.unwritten = c.phase.unwritten)
      (hchanges : c'.changes = c.changes) (hstate : c'.state = c.state)
  /-- The list of subscriptions is taken; what was queued is discarded. -/
  | takes (session : String) (hevent : e.session? = none) (htakes : c.takesSubscriptions e = true)
      (hlink : c.phase.link = .opening session) (hlink' : c'.phase.link = .up session)
      (hwritten : written = [])
      (hunwritten : c'.phase.unwritten =
        (c.registry.order.map SubscriptionChange.add).map (·.on session))
      (hchanges : c'.changes = [])
      (hstate : c'.state = if c.state = .closed then .closed else .resubscribing)
  /-- What was to be written or queued is written, or stays so. -/
  | sends (session : String) (hevent : e.session? = none) (htakes : c.takesSubscriptions e = false)
      (hlink : c.phase.link = .up session) (hlink' : c'.phase.link = .up session)
      (hwritten : changesIn written ++ changesIn c'.phase.unwritten ++
          c'.changes.map (·.on session) =
        changesIn c.phase.unwritten ++ c.changes.map (·.on session))
      (hstate : c'.state = c.state ∨ c.state ≠ .closed ∧ c'.state = .running)
  /-- There is no connection, or none any more. -/
  | drops (hevent : e.session? = none) (htakes : c.takesSubscriptions e = false)
      (hlink' : c'.phase.link = .down)
      (hwritten : changesIn written <+: changesIn c.phase.unwritten)
      (hstate : c'.state = c.state ∨ c'.state ≠ .resubscribing)

/-- Only an open session takes the list. -/
theorem takesSubscriptions_of_phase {c : Client} {p : Phase} (h : c.phase = p)
    (hp : ∀ session, p ≠ .opened session) {e : Event} : c.takesSubscriptions e = false := by
  unfold takesSubscriptions
  split
  · rename_i session hphase
    exact absurd (h.symm.trans hphase) (hp session)
  · rfl

/-! ## The parts of a step -/

@[simp] theorem publish_registry (c : Client) (s : ConnectionState) :
    (c.publish s).registry = c.registry := by unfold publish; split <;> rfl

@[simp] theorem publish_changes (c : Client) (s : ConnectionState) :
    (c.publish s).changes = c.changes := by unfold publish; split <;> rfl

/-- A closed client stays closed, another publishes the state. -/
theorem publish_state (c : Client) (s : ConnectionState) :
    (c.publish s).state = if c.state = .closed then .closed else s := by
  unfold publish
  split
  · assumption
  · rfl

/-- What is published is another state than `resubscribing`, unless that is published. -/
theorem publish_state_ne (c : Client) {s : ConnectionState} (hs : s ≠ .resubscribing) :
    (c.publish s).state ≠ .resubscribing := by
  rw [publish_state]
  split
  · decide
  · exact hs

/-- Opening a session writes the rest of the opening. -/
theorem greet_spec (c : Client) (now : Nat) (session : String) (rest : List Command) :
    (c.greet now session rest).phase.link = .opening session ∧
      (c.greet now session rest).phase.unwritten = rest.map .command ∧
      (c.greet now session rest).registry = c.registry ∧
      (c.greet now session rest).changes = c.changes ∧
      (c.greet now session rest).state = c.state := by
  cases rest <;> exact ⟨rfl, rfl, rfl, rfl, rfl⟩

/-- Sending the subscriptions writes the rest of them. -/
theorem resubscribe_spec (c : Client) (now : Nat) (session : String) (rest : List Instrument) :
    (c.resubscribe now session rest).phase.link = .up session ∧
      (c.resubscribe now session rest).phase.unwritten =
        (rest.map SubscriptionChange.add).map (·.on session) ∧
      (c.resubscribe now session rest).registry = c.registry ∧
      (c.resubscribe now session rest).changes = c.changes ∧
      (c.resubscribe now session rest).state = c.state := by
  cases rest <;> exact ⟨rfl, rfl, rfl, rfl, rfl⟩

/-- Going through payloads writes no change, and the connection stays or the session breaks down. -/
theorem process_spec (c : Client) (now : Nat) (session : String) (l : Listening)
    (rest : List (List Char)) :
    ((c.process now session l rest).phase.link = .up session ∧
        changesIn (c.process now session l rest).phase.unwritten = [] ∨
      (c.process now session l rest).phase.link = .down) ∧
      (c.process now session l rest).registry = c.registry ∧
      (c.process now session l rest).changes = c.changes ∧
      (c.process now session l rest).state = c.state := by
  unfold process
  split
  · split
    · exact ⟨Or.inl ⟨rfl, rfl⟩, rfl, rfl, rfl⟩
    · exact ⟨Or.inr rfl, rfl, rfl, rfl⟩
  · split
    · exact ⟨Or.inl ⟨rfl, rfl⟩, rfl, rfl, rfl⟩
    · exact ⟨Or.inl ⟨rfl, rfl⟩, rfl, rfl, rfl⟩

/-- A session that ends, or is between two attempts, has no connection and writes nothing. -/
structure Idles (c c' : Client) : Prop where
  link : c'.phase.link = .down
  registry : c'.registry = c.registry
  state : c'.state = c.state ∨ c'.state ≠ .resubscribing

theorem shut_idles (c : Client) (now : Nat) (ending : Ending) : c.Idles (c.shut now ending) :=
  ⟨rfl, rfl, Or.inl rfl⟩

theorem finish_idles (c : Client) : c.Idles c.finish :=
  ⟨rfl, publish_registry c _, Or.inr (publish_state_ne c (by decide))⟩

theorem backOff_idles (c : Client) (now : Nat) : c.Idles (c.backOff now) := by
  unfold backOff
  split
  · exact c.finish_idles
  · exact ⟨rfl, publish_registry c _, Or.inr (publish_state_ne c (by decide))⟩

theorem attempt_idles (c : Client) : c.Idles c.attempt.1 ∧ Effect.written c.attempt.2 = [] := by
  unfold attempt
  split
  · exact ⟨c.finish_idles, rfl⟩
  · exact ⟨⟨rfl, publish_registry c _, Or.inr (publish_state_ne c (by decide))⟩, rfl⟩

/-- A step into a phase without a connection, which writes nothing. -/
theorem Idles.turn {c c' : Client} (h : c.Idles c') {e : Event} (hevent : e.session? = none)
    (htakes : c.takesSubscriptions e = false) :
    c'.registry = c.registry ∧ c.Turn e c' [] :=
  ⟨h.registry, .drops hevent htakes h.link List.nil_prefix h.state⟩

/-! ## Steps -/

/-- A connection that stands begins to be greeted. -/
theorem dialed_turn (c : Client) (now : Nat) (session : String) :
    ((c.publish .connected).greet now session
        ((c.publish .connected).greeting session)).registry = c.registry ∧
      c.Turn (.dialed session) ((c.publish .connected).greet now session
        ((c.publish .connected).greeting session)) [] := by
  obtain ⟨hlink, hunwritten, hregistry, hchanges, hstate⟩ :=
    greet_spec (c.publish .connected) now session ((c.publish .connected).greeting session)
  refine ⟨hregistry.trans (publish_registry c _), .connects session rfl hlink rfl ?_
    (hchanges.trans (publish_changes c _)) (hstate.trans (publish_state c _))⟩
  rw [hunwritten]
  unfold greeting
  cases (c.publish .connected).settings.authToken <;> rfl

/-- An open session takes the list of subscriptions. -/
theorem takeSubscriptions_turn {c : Client} (now : Nat) {session : String}
    (hphase : c.phase = .opened session) :
    (c.takeSubscriptions now session).registry = c.registry ∧
      c.Turn .goOn (c.takeSubscriptions now session) [] := by
  obtain ⟨hlink, hunwritten, hregistry, hchanges, hstate⟩ :=
    resubscribe_spec ({ c with changes := [] }.publish .resubscribing) now session
      ({ c with changes := [] }.publish .resubscribing).registry.order
  refine ⟨hregistry.trans (publish_registry _ _), .takes session rfl ?_ ?_ hlink rfl
    (hunwritten.trans (by rw [publish_registry])) (hchanges.trans (publish_changes _ _))
    (hstate.trans (publish_state _ _))⟩
  · unfold takesSubscriptions
    rw [hphase]
  · rw [hphase]
    rfl

/-- A write that is complete is followed by the next. -/
theorem resume_turn {c : Client} (now : Nat) {session : String} {o : Outgoing} {deadline : Nat}
    {next : AfterWrite} (hphase : c.phase = .writing session o deadline next) :
    (c.resume now session next).1.registry = c.registry ∧
      c.Turn .written (c.resume now session next).1
        (o :: Effect.written (c.resume now session next).2) := by
  have htakes : c.takesSubscriptions .written = false := by
    unfold takesSubscriptions
    rw [hphase]
  have hbefore : c.phase.unwritten = o :: next.unwritten session := by
    rw [hphase]
    rfl
  cases next with
  | greet rest =>
    obtain ⟨hlink, hunwritten, hregistry, hchanges, hstate⟩ := greet_spec c now session rest
    refine ⟨hregistry, .opens session rfl htakes ?_ hlink ?_ hchanges hstate⟩
    · rw [hphase]
      rfl
    · rw [hbefore]
      exact congrArg (o :: ·) hunwritten
  | resubscribe rest =>
    obtain ⟨hlink, hunwritten, hregistry, hchanges, hstate⟩ := resubscribe_spec c now session rest
    refine ⟨hregistry, .sends session rfl htakes ?_ hlink ?_ (Or.inl hstate)⟩
    · rw [hphase]
      rfl
    · change changesIn [o] ++ changesIn (c.resubscribe now session rest).phase.unwritten ++
        (c.resubscribe now session rest).changes.map (·.on session) = _
      rw [hunwritten, hchanges, hbefore, ← changesIn_append]
      rfl
  | listen l =>
    refine ⟨rfl, .sends session rfl htakes ?_ rfl ?_ (Or.inl rfl)⟩
    · rw [hphase]
      rfl
    · rw [hbefore]
      exact congrArg (· ++ _) (List.append_nil _)
  | process l rest =>
    obtain ⟨hlink, hregistry, hchanges, hstate⟩ := process_spec c now session l rest
    refine ⟨hregistry, ?_⟩
    rcases hlink with ⟨hlink, hunwritten⟩ | hlink
    · refine .sends session rfl htakes ?_ hlink ?_ (Or.inl hstate)
      · rw [hphase]
        rfl
      · change changesIn [o] ++ changesIn (c.process now session l rest).phase.unwritten ++
          (c.process now session l rest).changes.map (·.on session) = _
        rw [hunwritten, hchanges, hbefore, List.append_nil]
        rfl
    · refine .drops rfl htakes hlink ?_ (Or.inl hstate)
      rw [hbefore]
      exact List.prefix_rfl

/-- Going on with payloads, from a phase on a connection that has nothing to write. -/
theorem process_turn {c : Client} (now : Nat) {session : String} (l : Listening)
    (rest : List (List Char)) {e : Event} (hevent : e.session? = none)
    (htakes : c.takesSubscriptions e = false) (hlink : c.phase.link = .up session)
    (hbefore : c.phase.unwritten = []) :
    (c.process now session l rest).registry = c.registry ∧
      c.Turn e (c.process now session l rest) [] := by
  obtain ⟨hlink', hregistry, hchanges, hstate⟩ := process_spec c now session l rest
  refine ⟨hregistry, ?_⟩
  rcases hlink' with ⟨hlink', hunwritten⟩ | hlink'
  · refine .sends session hevent htakes hlink hlink' ?_ (Or.inl hstate)
    rw [hunwritten, hchanges, hbefore]
    rfl
  · exact .drops hevent htakes hlink' List.nil_prefix (Or.inl hstate)

/-- Beginning to listen writes nothing. -/
theorem listen_turn {c : Client} (now : Nat) {session : String}
    (hphase : c.phase = .subscribed session) :
    (c.listen now session).registry = c.registry ∧ c.Turn .goOn (c.listen now session) [] := by
  refine ⟨publish_registry c _, .sends session rfl (takesSubscriptions_of_phase hphase nofun) ?_ rfl
    ?_ ?_⟩
  · rw [hphase]
    rfl
  · rw [hphase]
    exact congrArg (List.map _) (publish_changes c _)
  · change (c.publish .running).state = c.state ∨
      c.state ≠ .closed ∧ (c.publish .running).state = .running
    rw [publish_state]
    split
    · rename_i hclosed
      exact Or.inl hclosed.symm
    · rename_i hopen
      exact Or.inr ⟨hopen, rfl⟩

/-- A change that is taken from the queue begins to be written. -/
theorem change_turn {c : Client} (now : Nat) {session : String} {l : Listening}
    {change : SubscriptionChange} {rest : List SubscriptionChange}
    (hphase : c.phase = .listening session l) (hqueue : c.changes = change :: rest) :
    c.Turn .change
      ({ c with changes := rest }.write now session (.command (change.command session)) (.listen l))
      [] := by
  rw [SubscriptionChange.command_eq_on]
  refine .sends session rfl (takesSubscriptions_of_phase hphase nofun) ?_ rfl ?_ (Or.inl rfl)
  · rw [hphase]
    rfl
  · rw [hphase, hqueue]
    change changesIn ([change].map (·.on session)) ++ rest.map (·.on session) = _
    rw [changesIn_map_on]
    rfl

/-- **A step keeps the registry and takes one of the turns**, whatever the phase and the event. -/
theorem step_turn {c c' : Client} {now : Nat} {e : Event} {effects : List Effect}
    (h : c.step now e = some (c', effects)) :
    c'.registry = c.registry ∧ c.Turn e c' (Effect.written effects) := by
  have hreact := react_of_step h
  unfold react at hreact
  split at hreact
  all_goals rename_i hphase
  · -- starting
    obtain ⟨hidles, hwritten⟩ := c.attempt_idles
    rw [Option.some.inj hreact] at hidles hwritten
    rw [hwritten]
    exact hidles.turn rfl (takesSubscriptions_of_phase hphase nofun)
  · cases hreact
    exact takeSubscriptions_turn now hphase
  · cases hreact
    exact listen_turn now hphase
  · cases hreact
    exact dialed_turn c now _
  · cases hreact
    exact (c.backOff_idles now).turn rfl (takesSubscriptions_of_phase hphase nofun)
  · cases hreact
    exact c.finish_idles.turn rfl (takesSubscriptions_of_phase hphase nofun)
  · cases hreact
    exact resume_turn now hphase
  iterate 5
    · cases hreact
      exact (c.shut_idles now _).turn rfl (takesSubscriptions_of_phase hphase nofun)
  · -- a change
    split at hreact
    · exact absurd hreact (by simp)
    · rename_i hqueue
      cases hreact
      exact ⟨rfl, change_turn now hphase hqueue⟩
  · -- a stable connection
    obtain ⟨_, -, hsame⟩ := Option.map_eq_some_iff.mp hreact
    cases hsame
    refine ⟨rfl, .sends _ rfl (takesSubscriptions_of_phase hphase nofun) ?_ rfl ?_ (Or.inl rfl)⟩
    · rw [hphase]
      rfl
    · rw [hphase]
      rfl
  · -- a chunk
    split at hreact
    · cases hreact
      exact (c.shut_idles now _).turn rfl (takesSubscriptions_of_phase hphase nofun)
    · cases hreact
      refine process_turn now _ _ rfl (takesSubscriptions_of_phase hphase nofun) ?_ ?_
      · rw [hphase]
        rfl
      · rw [hphase]
        rfl
  · cases hreact
    exact (c.shut_idles now _).turn rfl (takesSubscriptions_of_phase hphase nofun)
  · cases hreact
    refine process_turn now _ _ rfl (takesSubscriptions_of_phase hphase nofun) ?_ ?_
    · rw [hphase]
      rfl
    · rw [hphase]
      rfl
  · cases hreact
    exact (c.shut_idles now _).turn rfl (takesSubscriptions_of_phase hphase nofun)
  iterate 2
    · cases hreact
      exact c.finish_idles.turn rfl (takesSubscriptions_of_phase hphase nofun)
  iterate 2
    · cases hreact
      exact (c.backOff_idles now).turn rfl (takesSubscriptions_of_phase hphase nofun)
  · cases hreact
    obtain ⟨hidles, hwritten⟩ := c.attempt_idles
    change _ ∧ c.Turn .timeUp c.attempt.1 (Effect.written c.attempt.2)
    rw [hwritten]
    exact hidles.turn rfl (takesSubscriptions_of_phase hphase nofun)
  · obtain ⟨hidles, hwritten⟩ := c.attempt_idles
    rw [Option.some.inj hreact] at hidles hwritten
    rw [hwritten]
    exact hidles.turn rfl (takesSubscriptions_of_phase hphase nofun)
  · exact absurd hreact (by simp)

end Client

end CandleFeed

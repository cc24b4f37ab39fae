import Mathlib.Data.List.Basic
import CandleFeed.Proofs.Session.Moves

/-!
# States in their order

**`ConnectionState.successors`** says which states a client may publish after which, and
**`Phase.states`** what an open client says while its session waits in a phase.
**`Client.Coherent.shift`** is that a step publishes a successor or nothing, and keeps the two in
agreement (**`Client.Coherent`**); nor does a step start a session or ask it to stop.  A client is
**`Client.Orderly`** if, besides, its session waits to be started until it is; every move keeps it
so (`Orderly.perform`).
-/

namespace CandleFeed

/-- The states that may be published after a state. -/
def ConnectionState.successors : ConnectionState → List ConnectionState
  | disconnected => [connecting, closed]
  | connecting => [connected, backingOff, disconnected, closed]
  | connected => [resubscribing, backingOff, disconnected, closed]
  | resubscribing => [running, backingOff, disconnected, closed]
  | running => [backingOff, disconnected, closed]
  | backingOff => [connecting, disconnected, closed]
  | closed => []

/-- A client can be closed in any other state. -/
theorem ConnectionState.closed_mem_successors {s : ConnectionState} (h : s ≠ .closed) :
    closed ∈ s.successors := by
  cases s <;> first | exact absurd rfl h | decide

/-- What an open client says about its connection while its session waits. -/
def Phase.states : Phase → List ConnectionState
  | idle | starting | finished => [.disconnected]
  | dialing => [.connecting]
  | opened _ | writing _ _ _ (.greet _) => [.connected]
  | subscribed _ | writing _ _ _ (.resubscribe _) => [.resubscribing]
  | writing _ _ _ (.listen _) | writing _ _ _ (.process _ _) => [.running]
  | listening _ _ | delivering _ _ _ _ | broken => [.running]
  | closing _ _ => [.connected, .resubscribing, .running]
  | waiting _ => [.backingOff]

/-- The session has begun to run. -/
def Phase.isBegun : Phase → Bool
  | idle | starting => false
  | _ => true

namespace Client

/-- A client says what is so, unless it has been closed. -/
def Coherent (c : Client) : Prop := c.state = .closed ∨ c.state ∈ c.phase.states

/-- **What a step does to what a client says**, and to what its owner has asked of it. -/
structure Shift (c c' : Client) : Prop where
  coherent : c'.Coherent
  state : c'.state ∈ c.state :: c.state.successors
  started : c'.started = c.started
  stopRequested : c'.stopRequested = c.stopRequested
  begun : c'.phase.isBegun = true

variable {c c' : Client} {states : List ConnectionState}

@[simp] theorem publish_started (c : Client) (s : ConnectionState) :
    (c.publish s).started = c.started := by unfold publish; split <;> rfl

@[simp] theorem publish_stopRequested (c : Client) (s : ConnectionState) :
    (c.publish s).stopRequested = c.stopRequested := by unfold publish; split <;> rfl

/-- A step that publishes nothing, into a phase in which an open client may say the same. -/
theorem Coherent.shift_of_same {states' : List ConnectionState} (h : c.Coherent)
    (hstates : c.phase.states = states) (hstates' : c'.phase.states = states')
    (hsub : states ⊆ states') (hstate : c'.state = c.state) (hstarted : c'.started = c.started)
    (hstop : c'.stopRequested = c.stopRequested) (hbegun : c'.phase.isBegun = true) :
    c.Shift c' := by
  refine ⟨?_, hstate ▸ List.mem_cons_self, hstarted, hstop, hbegun⟩
  unfold Coherent
  rw [hstate, hstates']
  exact h.imp_right fun hmem => hsub (hstates ▸ hmem)

/-- A step that publishes a state, which is or follows one that an open client says before. -/
theorem Coherent.shift_of_publish {s : ConnectionState} (h : c.Coherent)
    (hstates : c.phase.states = states) (hfollows : ∀ t ∈ states, s ∈ t :: t.successors)
    (hstates' : s ∈ c'.phase.states) (hstate : c'.state = (c.publish s).state)
    (hstarted : c'.started = c.started) (hstop : c'.stopRequested = c.stopRequested)
    (hbegun : c'.phase.isBegun = true) : c.Shift c' := by
  rw [publish_state] at hstate
  refine ⟨?_, ?_, hstarted, hstop, hbegun⟩
  · unfold Coherent
    split at hstate
    · exact Or.inl hstate
    · exact Or.inr (hstate ▸ hstates')
  · split at hstate
    · rename_i hclosed
      exact hstate.trans hclosed.symm ▸ List.mem_cons_self
    · rename_i hopen
      exact hstate ▸ hfollows _ (hstates ▸ h.resolve_left hopen)

/-! ## The parts of a step -/

/-- A session ends. -/
theorem Coherent.shift_finish (h : c.Coherent) (hstates : c.phase.states = states)
    (hends : ∀ t ∈ states, .disconnected ∈ t :: t.successors) : c.Shift c.finish :=
  h.shift_of_publish hstates hends List.mem_cons_self rfl (publish_started c _)
    (publish_stopRequested c _) rfl

/-- An attempt is made, or the session ends. -/
theorem Coherent.shift_attempt (h : c.Coherent) (hstates : c.phase.states = states)
    (hends : ∀ t ∈ states, .disconnected ∈ t :: t.successors)
    (hdials : ∀ t ∈ states, .connecting ∈ t :: t.successors) : c.Shift c.attempt.1 := by
  unfold attempt
  split
  · exact h.shift_finish hstates hends
  · exact h.shift_of_publish hstates hdials List.mem_cons_self rfl (publish_started c _)
      (publish_stopRequested c _) rfl

/-- The session waits for the next attempt, or ends. -/
theorem Coherent.shift_backOff (h : c.Coherent) (now : Nat) (hstates : c.phase.states = states)
    (hends : ∀ t ∈ states, .disconnected ∈ t :: t.successors)
    (hwaits : ∀ t ∈ states, .backingOff ∈ t :: t.successors) : c.Shift (c.backOff now) := by
  unfold backOff
  split
  · exact h.shift_finish hstates hends
  · exact h.shift_of_publish hstates hwaits List.mem_cons_self rfl (publish_started c _)
      (publish_stopRequested c _) rfl

/-- A connection is given up. -/
theorem Coherent.shift_shut (h : c.Coherent) (now : Nat) (ending : Ending)
    (hstates : c.phase.states = states)
    (hsub : states ⊆ [.connected, .resubscribing, .running]) : c.Shift (c.shut now ending) :=
  h.shift_of_same hstates rfl hsub rfl rfl rfl rfl

/-- What opening a session leaves alone. -/
theorem greet_shift (c : Client) (now : Nat) (session : String) (rest : List Command) :
    (c.greet now session rest).phase.states = [.connected] ∧
      (c.greet now session rest).state = c.state ∧
      (c.greet now session rest).started = c.started ∧
      (c.greet now session rest).stopRequested = c.stopRequested ∧
      (c.greet now session rest).phase.isBegun = true := by
  cases rest <;> exact ⟨rfl, rfl, rfl, rfl, rfl⟩

/-- What sending the subscriptions leaves alone. -/
theorem resubscribe_shift (c : Client) (now : Nat) (session : String) (rest : List Instrument) :
    (c.resubscribe now session rest).phase.states = [.resubscribing] ∧
      (c.resubscribe now session rest).state = c.state ∧
      (c.resubscribe now session rest).started = c.started ∧
      (c.resubscribe now session rest).stopRequested = c.stopRequested ∧
      (c.resubscribe now session rest).phase.isBegun = true := by
  cases rest <;> exact ⟨rfl, rfl, rfl, rfl, rfl⟩

/-- A session that gets a connection begins to be opened. -/
theorem Coherent.shift_dialed (h : c.Coherent) (now : Nat) (session : String)
    (hstates : c.phase.states = [.connecting]) :
    c.Shift
      ((c.publish .connected).greet now session ((c.publish .connected).greeting session)) := by
  obtain ⟨hstates', hstate, hstarted, hstop, hbegun⟩ :=
    greet_shift (c.publish .connected) now session ((c.publish .connected).greeting session)
  exact h.shift_of_publish hstates (by decide) (hstates' ▸ List.mem_cons_self) hstate
    (hstarted.trans (publish_started c _)) (hstop.trans (publish_stopRequested c _)) hbegun

/-- An open session begins to send the subscriptions. -/
theorem Coherent.shift_takeSubscriptions (h : c.Coherent) (now : Nat) (session : String)
    (hstates : c.phase.states = [.connected]) : c.Shift (c.takeSubscriptions now session) := by
  obtain ⟨hstates', hstate, hstarted, hstop, hbegun⟩ :=
    resubscribe_shift ({ c with changes := [] }.publish .resubscribing) now session
      ({ c with changes := [] }.publish .resubscribing).registry.order
  refine h.shift_of_publish hstates (by decide) (hstates' ▸ List.mem_cons_self) ?_
    (hstarted.trans (publish_started _ _)) (hstop.trans (publish_stopRequested _ _))
    hbegun
  exact hstate.trans ((publish_state _ _).trans (publish_state c _).symm)

/-- A session that has sent everything begins to listen. -/
theorem Coherent.shift_listen (h : c.Coherent) (now : Nat) (session : String)
    (hstates : c.phase.states = [.resubscribing]) : c.Shift (c.listen now session) :=
  h.shift_of_publish hstates (by decide) List.mem_cons_self rfl (publish_started c _)
    (publish_stopRequested c _) rfl

/-- What going through payloads leaves alone. -/
theorem process_shift (c : Client) (now : Nat) (session : String) (l : Listening)
    (rest : List (List Char)) :
    (c.process now session l rest).phase.states = [.running] ∧
      (c.process now session l rest).state = c.state ∧
      (c.process now session l rest).started = c.started ∧
      (c.process now session l rest).stopRequested = c.stopRequested ∧
      (c.process now session l rest).phase.isBegun = true := by
  unfold process
  split
  · split <;> exact ⟨rfl, rfl, rfl, rfl, rfl⟩
  · split <;> exact ⟨rfl, rfl, rfl, rfl, rfl⟩

/-- A session that goes through payloads keeps running. -/
theorem Coherent.shift_process (h : c.Coherent) (hstates : c.phase.states = [.running]) (now : Nat)
    (session : String) (l : Listening) (rest : List (List Char)) :
    c.Shift (c.process now session l rest) := by
  obtain ⟨hstates', hstate, hstarted, hstop, hbegun⟩ := process_shift c now session l rest
  exact h.shift_of_same hstates hstates' (List.Subset.refl _) hstate hstarted hstop
      hbegun

/-- A write that is complete is followed by the next, or by what comes after all of them. -/
theorem Coherent.shift_resume (h : c.Coherent) (now : Nat) {session : String} {o : Outgoing}
    {deadline : Nat} {next : AfterWrite} (hphase : c.phase = .writing session o deadline next) :
    c.Shift (c.resume now session next).1 := by
  cases next with
  | greet rest =>
    obtain ⟨hstates', hstate, hstarted, hstop, hbegun⟩ := greet_shift c now session rest
    exact h.shift_of_same (by rw [hphase]; rfl) hstates' (List.Subset.refl _) hstate hstarted hstop
      hbegun
  | resubscribe rest =>
    obtain ⟨hstates', hstate, hstarted, hstop, hbegun⟩ := resubscribe_shift c now session rest
    exact h.shift_of_same (by rw [hphase]; rfl) hstates' (List.Subset.refl _) hstate hstarted hstop
      hbegun
  | listen l => exact h.shift_of_same (by rw [hphase]; rfl) rfl (List.Subset.refl _) rfl rfl rfl rfl
  | process l rest => exact h.shift_process (by rw [hphase]; rfl) now session l rest

/-- A session that writes has a connection. -/
theorem states_writing (session : String) (o : Outgoing) (deadline : Nat) (next : AfterWrite) :
    (Phase.writing session o deadline next).states ⊆ [.connected, .resubscribing, .running] := by
  cases next <;> simp [Phase.states]

/-! ## Steps -/

/-- **A step publishes a successor of the state, or nothing**, and the client goes on to say what is
so. -/
theorem Coherent.shift (h : c.Coherent) {now : Nat} {e : Event} {effects : List Effect}
    (hstep : c.step now e = some (c', effects)) : c.Shift c' := by
  have hreact := react_of_step hstep
  have hruns : [ConnectionState.running] ⊆ [.connected, .resubscribing, .running] := by decide
  unfold react at hreact
  split at hreact
  all_goals rename_i hphase
  -- the last case is that of no step
  on_goal -1 => exact absurd hreact (by simp)
  all_goals have hstates := congrArg Phase.states hphase
  · -- starting
    have hattempt : c.attempt.1 = c' := congrArg Prod.fst (Option.some.inj hreact)
    exact hattempt ▸ h.shift_attempt hstates (by decide) (by decide)
  · -- opened
    cases hreact
    exact h.shift_takeSubscriptions now _ hstates
  · -- subscribed
    cases hreact
    exact h.shift_listen now _ hstates
  · -- a connection stands
    cases hreact
    exact h.shift_dialed now _ hstates
  · cases hreact
    exact h.shift_backOff now hstates (by decide) (by decide)
  · cases hreact
    exact h.shift_finish hstates (by decide)
  · -- a write is complete
    cases hreact
    exact h.shift_resume now hphase
  iterate 3
    · cases hreact
      exact h.shift_shut now _ hstates (states_writing _ _ _ _)
  iterate 2
    · cases hreact
      exact h.shift_shut now _ hstates hruns
  · -- a change
    split at hreact
    · exact absurd hreact (by simp)
    · cases hreact
      exact h.shift_of_same hstates rfl (List.Subset.refl _) rfl rfl rfl rfl
  · -- a stable connection
    obtain ⟨_, -, hsame⟩ := Option.map_eq_some_iff.mp hreact
    cases hsame
    exact h.shift_of_same hstates rfl (List.Subset.refl _) rfl rfl rfl rfl
  · -- a chunk
    split at hreact
    · cases hreact
      exact h.shift_shut now _ hstates hruns
    · cases hreact
      exact h.shift_process hstates now _ _ _
  · cases hreact
    exact h.shift_shut now _ hstates hruns
  · cases hreact
    exact h.shift_process hstates now _ _ _
  · cases hreact
    exact h.shift_shut now _ hstates hruns
  all_goals dsimp only [Phase.states] at hstates
  iterate 2
    · cases hreact
      exact h.shift_finish hstates (by decide)
  iterate 2
    · cases hreact
      exact h.shift_backOff now hstates (by decide) (by decide)
  · cases hreact
    exact h.shift_attempt hstates (by decide) (by decide)
  · have hattempt : c.attempt.1 = c' := congrArg Prod.fst (Option.some.inj hreact)
    exact hattempt ▸ h.shift_attempt hstates (by decide) (by decide)

/-! ## The owner's calls -/

/-- **A client that says what is so**, and whose session waits to be started until it is. -/
structure Orderly (c : Client) : Prop where
  coherent : c.Coherent
  fresh : c.started = false → c.phase = .idle

/-- A new client is orderly. -/
theorem orderly_new (settings : ClientSettings) : (new settings).Orderly :=
  ⟨Or.inr List.mem_cons_self, fun _ => rfl⟩

/-- A step keeps a client orderly. -/
theorem Orderly.step (h : c.Orderly) {now : Nat} {e : Event} {effects : List Effect}
    (hstep : c.step now e = some (c', effects)) : c'.Orderly := by
  have hshift := h.coherent.shift hstep
  refine ⟨hshift.coherent, fun hfresh => ?_⟩
  -- a session that waits to be started goes no step
  have hidle : c.isDone = true := by
    unfold isDone
    rw [h.fresh (hshift.started.symm.trans hfresh)]
  exact absurd ((step_of_isDone hidle now e).symm.trans hstep) (by simp)

/-- What leaves the state, the phase and the start alone keeps a client orderly. -/
theorem Orderly.of_same (h : c.Orderly) (hstate : c'.state = c.state) (hphase : c'.phase = c.phase)
    (hstarted : c'.started = c.started) : c'.Orderly := by
  refine ⟨?_, ?_⟩
  · unfold Coherent
    rw [hstate, hphase]
    exact h.coherent
  · rw [hstarted, hphase]
    exact h.fresh

/-- What queueing a change leaves alone. -/
theorem queueChange_started (c : Client) (change : SubscriptionChange) :
    (c.queueChange change).started = c.started := by
  unfold queueChange
  split <;> rfl

/-- What subscribing leaves alone. -/
theorem subscribe_same (c : Client) (i : Instrument) :
    (c.subscribe i).1.state = c.state ∧ (c.subscribe i).1.started = c.started := by
  unfold subscribe
  split
  split
  · exact ⟨queueChange_state _ _, queueChange_started _ _⟩
  · exact ⟨rfl, rfl⟩

/-- What unsubscribing leaves alone. -/
theorem unsubscribe_same (c : Client) (i : Instrument) :
    (c.unsubscribe i).1.state = c.state ∧ (c.unsubscribe i).1.started = c.started := by
  unfold unsubscribe
  split
  split
  · exact ⟨queueChange_state _ _, queueChange_started _ _⟩
  · exact ⟨rfl, rfl⟩

/-- A session that is started waits to run. -/
theorem Orderly.start (h : c.Orderly) (hidle : c.phase = .idle) :
    Orderly { c with started := true, phase := .starting } := by
  refine ⟨h.coherent.imp_right fun hmem => ?_, fun hfresh => absurd hfresh (by simp)⟩
  rw [hidle] at hmem
  exact hmem

/-- A client that is closed is orderly. -/
theorem Orderly.close (h : c.Orderly) : c.close.Orderly := by
  refine ⟨Or.inl ?_, ?_⟩
  · exact (publish_state c _).trans (ite_self _)
  · rw [close_phase]
    exact fun hfresh => h.fresh ((publish_started c _).symm.trans hfresh)

/-- **A move keeps a client orderly.** -/
theorem Orderly.perform (h : c.Orderly) {m : ClientMove} {effects : List Effect}
    (hperform : c.perform m = some (c', effects)) : c'.Orderly := by
  cases m with
  | step now e => exact h.step hperform
  | subscribe i =>
    cases hperform
    obtain ⟨hstate, hstarted⟩ := subscribe_same c i
    exact h.of_same hstate (subscribe_phase c i) hstarted
  | unsubscribe i =>
    cases hperform
    obtain ⟨hstate, hstarted⟩ := unsubscribe_same c i
    exact h.of_same hstate (unsubscribe_phase c i) hstarted
  | connect =>
    simp only [Client.perform] at hperform
    split at hperform
    · rename_i hconnect
      cases hperform
      obtain ⟨-, hfresh, rfl⟩ := connect_eq_ok hconnect
      exact h.start (h.fresh hfresh)
    · exact absurd hperform (by simp)
  | requestStop =>
    cases hperform
    exact ⟨h.coherent, fun hfresh => absurd hfresh Bool.noConfusion⟩
  | close =>
    cases hperform
    exact h.close

end Client

end CandleFeed

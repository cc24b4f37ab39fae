import Mathlib.Data.List.Basic
import CandleFeed.Proofs.Run
import CandleFeed.Proofs.Session.States

/-!
# The life of a client

The owner's calls take their time: while one of them is under way, the session goes on and other
calls begin.  An **`Owned`** client goes through them part by part; a **`CallStage`** is what a call
is to do next.  Uninterrupted, the parts make up the calls (`connect_eq`, `requestStop_eq`).

* **`Owned.Ordered`**: the states that were published, each a successor of the one before.
* **`Owned.Single`**: of all the calls that start the client, one succeeds at most.
* **`Owned.Calm`**: as long as calls do not overlap, one that stops the client returns when the
  session is over, and the session stays so.
* **`Owned.Lifecycle`** puts them together, and `run_lifecycle` says them of every run.
-/

namespace CandleFeed

/-! ## The parts of a call -/

namespace Client

/-- Takes away the right to start the session. -/
def barStart (c : Client) : Client := { c with started := true }

/-- Takes the right to start the session, which there is once. -/
def takeStart (c : Client) : Except ConnectFault Client :=
  if c.started then .error .alreadyStarted else .ok c.barStart

/-- Starts the session. -/
def spawn (c : Client) : Client := { c with phase := .starting }

/-- Asks the session to stop. -/
def askToStop (c : Client) : Client := { c with stopRequested := true }

/-- Starting a client is to find it open, to take the right to start and to start the session. -/
theorem connect_eq (c : Client) :
    c.connect = if c.state = .closed then .error .closed else c.takeStart.map spawn := by
  unfold connect takeStart
  split
  · rfl
  · split <;> rfl

/-- Requesting a stop is to ask for it and to take away the right to start. -/
theorem requestStop_eq (c : Client) : c.requestStop = c.askToStop.barStart := rfl

end Client

/-- What a call that is under way is to do next. -/
inductive CallStage where
  /-- To take the right to start the session; the client was open. -/
  | taking
  /-- To start the session. -/
  | spawning
  /-- To keep the session, so that it can be waited for. -/
  | storing
  /-- To take away the right to start; the session has been asked to stop. -/
  | sealing
  /-- To take the session, if it is kept. -/
  | collecting
  /-- To wait for the session to end. -/
  | awaiting
  /-- To close the client. -/
  | ending
deriving DecidableEq

/-- The call will have started the session. -/
def CallStage.isStart : CallStage → Bool
  | spawning | storing => true
  | _ => false

/-- The call has taken away the right to start. -/
def CallStage.isBarred : CallStage → Bool
  | collecting | awaiting | ending => true
  | _ => false

/-- How a call that starts the client ended. -/
structure StartOutcome where
  /-- The client was closed when the call began. -/
  wasClosed : Bool
  /-- Why it failed, if it did. -/
  fault : Option ConnectFault
deriving DecidableEq

/-- A client, the calls of its owner that are under way, and what they have come to. -/
structure Owned where
  client : Client
  /-- The session is kept, so that it can be waited for. -/
  holdsSession : Bool
  /-- The calls that are under way. -/
  calls : List CallStage
  /-- How calls that start the client ended. -/
  starts : List StartOutcome
  /-- The states that were published before the present one, the latest first. -/
  earlier : List ConnectionState
  /-- What the session has done since a call that stops the client returned, if one has. -/
  since : Option (List Effect)
  /-- A call began while another was under way. -/
  overlapped : Bool

/-- What happens to a client and to the calls of its owner. -/
inductive OwnedMove where
  /-- The session goes a step. -/
  | step (now : Nat) (e : Event)
  | subscribe (i : Instrument)
  | unsubscribe (i : Instrument)
  /-- A call begins that starts the client. -/
  | start
  /-- A call begins that stops the client. -/
  | stop
  /-- A call that is under way does what it is to do next. -/
  | goOn (k : Nat)

namespace Owned

/-- A client that nobody has called. -/
def start (settings : ClientSettings) : Owned where
  client := .new settings
  holdsSession := false
  calls := []
  starts := []
  earlier := []
  since := none
  overlapped := false

/-- The states that were published before the present one, when a client has become another. -/
def outdated (earlier : List ConnectionState) (c c' : Client) : List ConnectionState :=
  if c'.state = c.state then earlier else c.state :: earlier

/-- The client has become another, and its session did something. -/
def follow (w : Owned) (c : Client) (effects : List Effect) : Owned where
  client := c
  holdsSession := w.holdsSession
  calls := w.calls
  starts := w.starts
  earlier := outdated w.earlier w.client c
  since := w.since.map (· ++ effects)
  overlapped := w.overlapped

/-- A call begins, and may go on. -/
def enter (w : Owned) (stage : Option CallStage) : Owned :=
  { w with
    calls := w.calls ++ stage.toList
    overlapped := w.overlapped || !w.calls.isEmpty }

/-- A call between others does what it is to do next. -/
def proceed (w : Owned) (before after : List CallStage) : CallStage → Option Owned
  | .taking =>
    match w.client.takeStart with
    | .error fault =>
      some { w with calls := before ++ after, starts := w.starts ++ [⟨false, some fault⟩] }
    | .ok c => some { w with client := c, calls := before ++ .spawning :: after }
  | .spawning => some { w with client := w.client.spawn, calls := before ++ .storing :: after }
  | .storing =>
    some { w with
      holdsSession := true
      calls := before ++ after
      starts := w.starts ++ [⟨false, none⟩] }
  | .sealing => some { w with client := w.client.barStart, calls := before ++ .collecting :: after }
  | .collecting =>
    some { w with
      holdsSession := false
      calls := before ++ (if w.holdsSession then .awaiting else .ending) :: after }
  | .awaiting =>
    if w.client.isDone then some { w with calls := before ++ .ending :: after } else none
  | .ending =>
    some { w.follow w.client.close [] with
      calls := before ++ after
      since := some (w.since.getD []) }

/-- A move, if it can happen. -/
def move (w : Owned) : OwnedMove → Option Owned
  | .step now e => (w.client.step now e).map fun (c, effects) => w.follow c effects
  | .subscribe i => some (w.follow (w.client.subscribe i).1 [])
  | .unsubscribe i => some (w.follow (w.client.unsubscribe i).1 [])
  | .start =>
    if w.client.state = .closed then
      some { w.enter none with starts := w.starts ++ [⟨true, some .closed⟩] }
    else some (w.enter (some .taking))
  | .stop => some ((w.follow w.client.askToStop []).enter (some .sealing))
  | .goOn k =>
    match w.calls.drop k with
    | [] => none
    | stage :: after => w.proceed (w.calls.take k) after stage

/-- Moves one after another. -/
def run (w : Owned) (moves : List OwnedMove) : Option Owned := moves.foldlM move w

/-! ## The states that were published -/

/-- How often a client has gone from `disconnected` to `connecting`. -/
def leavings (states : List ConnectionState) : Nat :=
  (states.zip states.tail).count (.connecting, .disconnected)

/-- **The states of an orderly client**, each a successor of the one before. -/
structure Ordered (c : Client) (earlier : List ConnectionState) : Prop where
  orderly : c.Orderly
  first : (c.state :: earlier).getLast? = some .disconnected
  moves : (c.state :: earlier).IsChain fun later earlier => later ∈ earlier.successors
  left : leavings (c.state :: earlier) ≤ 1
  /-- Until the session has begun to run, `disconnected` has not been left. -/
  unbegun : c.phase.isBegun = false → leavings (c.state :: earlier) = 0

variable {c c' : Client} {earlier : List ConnectionState}

theorem ordered_new (settings : ClientSettings) : Ordered (.new settings) [] :=
  ⟨Client.orderly_new settings, rfl, .singleton _, Nat.zero_le 1, fun _ => rfl⟩

/-- A client that stays in its state keeps the order if it stays orderly, and if its session does
not go back before its beginning. -/
theorem Ordered.of_state (h : Ordered c earlier) (horderly : c'.Orderly)
    (hstate : c'.state = c.state) (hbegun : c.phase.isBegun = true → c'.phase.isBegun = true) :
    Ordered c' earlier := by
  refine ⟨horderly, ?_, ?_, ?_, fun hunbegun => ?_⟩
  all_goals rw [hstate]
  · exact h.first
  · exact h.moves
  · exact h.left
  · refine h.unbegun (Bool.eq_false_iff.mpr fun hbefore => ?_)
    exact absurd (hbegun hbefore) (Bool.eq_false_iff.mp hunbegun)

/-- One more state. -/
theorem leavings_cons (t s : ConnectionState) (states : List ConnectionState) :
    leavings (t :: s :: states) = leavings (s :: states) +
      if t = .connecting ∧ s = .disconnected then 1 else 0 := by
  unfold leavings
  rw [List.tail_cons, List.zip_cons_cons, List.count_cons, List.tail_cons]
  simp only [beq_iff_eq, Prod.mk.injEq]

/-- A client that publishes a successor of its state keeps the order, if it leaves `disconnected`
for `connecting` only when it has not left it before. -/
theorem Ordered.of_successor (h : Ordered c earlier) (horderly : c'.Orderly)
    (hstate : c'.state ∈ c.state.successors)
    (hleft : c'.state = .connecting → c.state = .disconnected →
      c.phase.isBegun = false ∧ c'.phase.isBegun = true)
    (hbegun : c.phase.isBegun = true → c'.phase.isBegun = true) :
    Ordered c' (c.state :: earlier) := by
  refine ⟨horderly, ?_, .cons_cons hstate h.moves, ?_, fun hunbegun => ?_⟩
  · rw [List.getLast?_cons_cons]
    exact h.first
  · rw [leavings_cons]
    split
    · rename_i hleaves
      have hzero := h.unbegun (hleft hleaves.1 hleaves.2).1
      omega
    · exact h.left
  · rw [leavings_cons, if_neg fun hleaves => absurd (hleft hleaves.1 hleaves.2).2
      (Bool.eq_false_iff.mp hunbegun)]
    refine h.unbegun (Bool.eq_false_iff.mpr fun hbefore => ?_)
    exact absurd (hbegun hbefore) (Bool.eq_false_iff.mp hunbegun)

/-- An open client that says `disconnected` and can go a step has not begun to run. -/
theorem unbegun_of_disconnected (h : c.Coherent) (hstate : c.state = .disconnected) {now : Nat}
    {e : Event} {effects : List Effect} (hstep : c.step now e = some (c', effects)) :
    c.phase.isBegun = false := by
  have hmem : ConnectionState.disconnected ∈ c.phase.states :=
    hstate ▸ h.resolve_left (hstate ▸ nofun)
  have hruns : c.isDone = false :=
    Bool.eq_false_iff.mpr fun hdone => by
      exact absurd ((Client.step_of_isDone hdone now e).symm.trans hstep) (by simp)
  unfold Client.isDone at hruns
  cases hphase : c.phase with
  | idle => rfl
  | starting => rfl
  | writing session o deadline next =>
    rw [hphase] at hmem
    cases next <;> simp [Phase.states] at hmem
  | finished =>
    rw [hphase] at hruns
    exact absurd hruns Bool.noConfusion
  | _ =>
    rw [hphase] at hmem
    simp [Phase.states] at hmem

/-- **A step keeps the order.** -/
theorem Ordered.step (h : Ordered c earlier) {now : Nat} {e : Event} {effects : List Effect}
    (hstep : c.step now e = some (c', effects)) : Ordered c' (outdated earlier c c') := by
  have hshift := h.orderly.coherent.shift hstep
  have horderly := h.orderly.step hstep
  unfold outdated
  split
  · rename_i hsame
    exact h.of_state horderly hsame fun _ => hshift.begun
  · rename_i hother
    refine h.of_successor horderly (List.mem_of_ne_of_mem hother hshift.state) ?_ fun _ =>
      hshift.begun
    exact fun _ hstate => ⟨unbegun_of_disconnected h.orderly.coherent hstate hstep, hshift.begun⟩

/-- Closing a client keeps the order. -/
theorem Ordered.close (h : Ordered c earlier) : Ordered c.close (outdated earlier c c.close) := by
  have hclosed : c.close.state = .closed := (Client.publish_state c _).trans (ite_self _)
  have hbegun : c.phase.isBegun = true → c.close.phase.isBegun = true :=
    fun hbefore => (Client.close_phase c).symm ▸ hbefore
  unfold outdated
  split
  · rename_i hsame
    exact h.of_state h.orderly.close hsame hbegun
  · rename_i hother
    refine h.of_successor h.orderly.close ?_ ?_ hbegun
    · rw [hclosed] at hother ⊢
      exact ConnectionState.closed_mem_successors fun hstate => hother hstate.symm
    · rw [hclosed]
      exact nofun

/-- A session that is started has not begun to run. -/
theorem Ordered.spawn (h : Ordered c earlier) (hstarted : c.started = true)
    (hidle : c.phase = .idle) : Ordered c.spawn earlier := by
  have hunbegun : c.phase.isBegun = false := by
    rw [hidle]
    rfl
  have horderly : c.spawn.Orderly := by
    refine ⟨h.orderly.coherent.imp_right fun hmem => ?_, fun hfresh => ?_⟩
    · rw [hidle] at hmem
      exact hmem
    · exact absurd (hfresh.symm.trans hstarted) Bool.noConfusion
  exact h.of_state horderly rfl fun hbegun => absurd hbegun (Bool.eq_false_iff.mp hunbegun)

/-- Closed is never left. -/
theorem closed_not_mem {s : ConnectionState} {earlier : List ConnectionState}
    (h : (s :: earlier).IsChain fun later earlier => later ∈ earlier.successors) :
    .closed ∉ earlier := by
  induction earlier generalizing s with
  | nil => exact List.not_mem_nil
  | cons t earlier ih =>
    obtain ⟨hmem, hrest⟩ := List.isChain_cons_cons.mp h
    refine fun hclosed => (List.mem_cons.mp hclosed).elim ?_ (ih hrest)
    rintro rfl
    exact absurd hmem List.not_mem_nil

/-! ## Calls that start the client -/

/-- How many calls have started the session, or are about to. -/
def startCount (w : Owned) : Nat :=
  w.starts.countP (·.fault.isNone) + w.calls.countP CallStage.isStart

/-- **At most one call starts the session.** -/
structure Single (w : Owned) : Prop where
  atMostOne : w.startCount ≤ 1
  unstarted : w.client.started = false → w.startCount = 0
  idle : .spawning ∈ w.calls → w.client.phase = .idle
  refused : ∀ o ∈ w.starts, o.fault = some .closed ↔ o.wasClosed = true

variable {w w' : Owned} {before after : List CallStage} {stage : CallStage}

theorem single_start (settings : ClientSettings) : (start settings).Single :=
  ⟨Nat.zero_le 1, fun _ => rfl, nofun, nofun⟩

/-- A client that becomes another leaves its calls as they are, unless its session was idle and is
not any more, or it becomes free to start. -/
theorem Single.follow (h : w.Single) {c : Client} (effects : List Effect)
    (hstarted : c.started = w.client.started) (hidle : w.client.phase = .idle → c.phase = .idle) :
    (w.follow c effects).Single :=
  ⟨h.atMostOne, fun hfree => h.unstarted (hstarted.symm.trans hfree),
    fun hspawning => hidle (h.idle hspawning), h.refused⟩

/-- No call that starts the session is among stages none of which does. -/
theorem countP_isStart_of_option {stage : Option CallStage}
    (hstage : ∀ s ∈ stage, s.isStart = false) : stage.toList.countP CallStage.isStart = 0 := by
  rw [List.countP_eq_zero]
  exact fun s hs => by rw [hstage s (Option.mem_toList.mp hs)]; exact Bool.false_ne_true

/-- A call that begins has started nothing. -/
theorem Single.enter (h : w.Single) {stage : Option CallStage}
    (hstage : ∀ s ∈ stage, s.isStart = false) : (w.enter stage).Single := by
  have hcount : (w.enter stage).startCount = w.startCount := by
    unfold startCount Owned.enter
    rw [List.countP_append, countP_isStart_of_option hstage, Nat.add_zero]
  refine ⟨hcount ▸ h.atMostOne, hcount ▸ h.unstarted, fun hspawning => ?_, h.refused⟩
  rcases List.mem_append.mp hspawning with hspawning | hspawning
  · exact h.idle hspawning
  · exact absurd (hstage _ (Option.mem_toList.mp hspawning)) Bool.noConfusion

/-- The calls that start the session, with one call told apart. -/
theorem startCount_of_calls (hcalls : w.calls = before ++ stage :: after) :
    w.startCount = w.starts.countP (·.fault.isNone) + (before ++ after).countP CallStage.isStart +
      if stage.isStart then 1 else 0 := by
  unfold startCount
  rw [hcalls, List.countP_append, List.countP_cons, List.countP_append]
  omega

/-- The other calls are under way too. -/
theorem mem_calls_of_other (hcalls : w.calls = before ++ stage :: after) {s : CallStage}
    (hs : s ∈ before ++ after) : s ∈ w.calls := by
  rw [hcalls]
  exact (List.mem_append.mp hs).elim (List.mem_append_left _) fun hs =>
    List.mem_append_right _ (List.mem_cons_of_mem _ hs)

/-- A call that has started nothing goes on to something that does not, or returns. -/
theorem Single.goOn (h : w.Single) (hcalls : w.calls = before ++ stage :: after)
    (hstage : stage.isStart = false) (next : Option CallStage)
    (hnext : ∀ s ∈ next, s.isStart = false) (hcalls' : w'.calls = before ++ next.toList ++ after)
    (hstarts : w'.starts.countP (·.fault.isNone) = w.starts.countP (·.fault.isNone))
    (hrefused : ∀ o ∈ w'.starts, o.fault = some .closed ↔ o.wasClosed = true)
    (hstarted : w'.client.started = false → w.client.started = false)
    (hphase : w'.client.phase = w.client.phase) : w'.Single := by
  have hcount : w'.startCount = w.startCount := by
    rw [startCount_of_calls hcalls, hstage, List.countP_append]
    unfold startCount
    rw [hcalls', hstarts, List.countP_append, List.countP_append, countP_isStart_of_option hnext]
    simp only [Bool.false_eq_true, if_false]
    omega
  refine ⟨hcount ▸ h.atMostOne, fun hfree => hcount ▸ h.unstarted (hstarted hfree),
    fun hspawning => ?_, hrefused⟩
  rw [hphase]
  rw [hcalls', List.append_assoc, List.mem_append, List.mem_append] at hspawning
  rcases hspawning with hspawning | hspawning | hspawning
  · exact h.idle (mem_calls_of_other hcalls (List.mem_append_left _ hspawning))
  · exact absurd (hnext _ (Option.mem_toList.mp hspawning)) Bool.noConfusion
  · exact h.idle (mem_calls_of_other hcalls (List.mem_append_right _ hspawning))

/-- A call that waits for the session goes on when it is over. -/
theorem proceed_awaiting (h : w.proceed before after .awaiting = some w') :
    w.client.isDone = true ∧ w' = { w with calls := before ++ .ending :: after } := by
  simp only [proceed] at h
  split at h
  · rename_i hover
    exact ⟨hover, (Option.some.inj h).symm⟩
  · exact absurd h (by simp)

/-- A call that wants the right to start takes it, or fails because it is taken. -/
theorem proceed_taking (h : w.proceed before after .taking = some w') :
    w.client.started = true ∧ w' = { w with
        calls := before ++ after, starts := w.starts ++ [⟨false, some .alreadyStarted⟩] } ∨
      w.client.started = false ∧
        w' = { w with client := w.client.barStart, calls := before ++ .spawning :: after } := by
  simp only [proceed, Client.takeStart] at h
  cases hstarted : w.client.started with
  | true =>
    simp only [hstarted] at h
    exact Or.inl ⟨rfl, (Option.some.inj h).symm⟩
  | false =>
    simp only [hstarted] at h
    exact Or.inr ⟨rfl, (Option.some.inj h).symm⟩

/-- A call that takes the right to start is the first to. -/
theorem Single.take (h : w.Single) (horderly : w.client.Orderly)
    (hcalls : w.calls = before ++ .taking :: after) (hfree : w.client.started = false) :
    Single { w with client := w.client.barStart, calls := before ++ .spawning :: after } := by
  have hzero := h.unstarted hfree
  rw [startCount_of_calls hcalls] at hzero
  refine ⟨?_, fun hfree' => absurd hfree' Bool.noConfusion, fun _ => horderly.fresh hfree,
    h.refused⟩
  rw [startCount_of_calls (w := { w with client := w.client.barStart, calls := _ }) rfl]
  simp only [CallStage.isStart, Bool.false_eq_true, if_false, if_true] at hzero ⊢
  omega

/-- A call that starts the session is the only one. -/
theorem Single.spawn (h : w.Single) (hcalls : w.calls = before ++ .spawning :: after) :
    Single { w with client := w.client.spawn, calls := before ++ .storing :: after } := by
  have hone := startCount_of_calls hcalls
  have hmost := h.atMostOne
  have hcount : startCount { w with
      client := w.client.spawn, calls := before ++ .storing :: after } = w.startCount :=
    (startCount_of_calls (w := { w with client := _, calls := _ }) rfl).trans hone.symm
  refine ⟨hcount ▸ hmost, fun hfree => hcount ▸ h.unstarted hfree, fun hspawning => ?_, h.refused⟩
  -- another would be one too many
  have hother : CallStage.spawning ∈ before ++ after := by
    rcases List.mem_append.mp hspawning with hmem | hmem
    · exact List.mem_append_left _ hmem
    · exact List.mem_append_right _ ((List.mem_cons.mp hmem).resolve_left nofun)
  have hpositive : 0 < (before ++ after).countP CallStage.isStart :=
    List.countP_pos_iff.mpr ⟨_, hother, rfl⟩
  simp only [CallStage.isStart, if_true] at hone
  omega

/-- A call that has started the session returns. -/
theorem Single.store (h : w.Single) (hcalls : w.calls = before ++ .storing :: after) :
    Single { w with
      holdsSession := true, calls := before ++ after, starts := w.starts ++ [⟨false, none⟩] } := by
  have hcount : startCount { w with
      holdsSession := true, calls := before ++ after, starts := w.starts ++ [⟨false, none⟩] } =
        w.startCount := by
    rw [startCount_of_calls hcalls]
    unfold startCount
    rw [List.countP_append]
    simp only [CallStage.isStart, if_true, List.countP_singleton, Option.isNone_none]
    omega
  refine ⟨hcount ▸ h.atMostOne, hcount ▸ h.unstarted,
    fun hspawning => h.idle (mem_calls_of_other hcalls hspawning), fun o ho => ?_⟩
  rcases List.mem_append.mp ho with ho | ho
  · exact h.refused o ho
  · obtain rfl := List.mem_singleton.mp ho
    exact ⟨nofun, nofun⟩

/-- **A call that goes on leaves at most one that starts the session.** -/
theorem Single.proceed (h : w.Single) (horderly : w.client.Orderly)
    (hcalls : w.calls = before ++ stage :: after)
    (hproceed : w.proceed before after stage = some w') : w'.Single := by
  cases stage with
  | taking =>
    rcases proceed_taking hproceed with ⟨-, rfl⟩ | ⟨hfree, rfl⟩
    · refine h.goOn hcalls rfl none nofun (by simp) (by simp) (fun o ho => ?_) id rfl
      rcases List.mem_append.mp ho with ho | ho
      · exact h.refused o ho
      · obtain rfl := List.mem_singleton.mp ho
        exact ⟨nofun, nofun⟩
    · exact h.take horderly hcalls hfree
  | spawning =>
    cases hproceed
    exact h.spawn hcalls
  | storing =>
    cases hproceed
    exact h.store hcalls
  | sealing =>
    cases hproceed
    exact h.goOn hcalls rfl (some .collecting) (by simp [CallStage.isStart]) (by simp) rfl
      h.refused nofun rfl
  | collecting =>
    cases hproceed
    refine h.goOn hcalls rfl (some (if w.holdsSession then .awaiting else .ending)) ?_ (by simp) rfl
      h.refused id rfl
    intro s hs
    cases hs
    split <;> rfl
  | awaiting =>
    obtain ⟨-, rfl⟩ := proceed_awaiting hproceed
    exact h.goOn hcalls rfl (some .ending) (by simp [CallStage.isStart]) (by simp) rfl h.refused id
      rfl
  | ending =>
    cases hproceed
    exact h.goOn hcalls rfl none nofun (by simp) rfl h.refused
      (fun hfree => (Client.publish_started _ _).symm.trans hfree) (Client.close_phase _)

/-! ## Calls that stop the client -/

/-- **What holds as long as calls do not overlap.** -/
structure Calm (w : Owned) : Prop where
  /-- One call is under way at most. -/
  few : w.calls.length ≤ 1
  /-- A session that runs is kept, or about to be, or waited for. -/
  kept : w.client.isDone = false →
    w.holdsSession = true ∨ w.calls = [.storing] ∨ w.calls = [.awaiting]
  barred : ∀ s ∈ w.calls, s.isBarred = true → w.client.started = true
  /-- A client is closed when its session is over. -/
  ended : .ending ∈ w.calls → w.client.isDone = true
  /-- After a call that stops the client has returned, the session stays over. -/
  silent : ∀ effects, w.since = some effects → effects = [] ∧ w.client.isDone = true ∧
    w.client.started = true ∧ .spawning ∉ w.calls

theorem calm_start (settings : ClientSettings) : (start settings).Calm :=
  ⟨Nat.zero_le 1, nofun, nofun, nofun, nofun⟩

/-- A client whose session stays over if it is, and that cannot be started if it could not, stays
calm. -/
theorem Calm.follow (h : w.Calm) {c : Client} {effects : List Effect}
    (hdone : w.client.isDone = true → c.isDone = true ∧ effects = [])
    (hstarted : w.client.started = true → c.started = true) : (w.follow c effects).Calm := by
  refine ⟨h.few, fun hruns => h.kept ?_, fun s hs hbarred => hstarted (h.barred s hs hbarred),
    fun hending => (hdone (h.ended hending)).1, fun es hes => ?_⟩
  · exact Bool.eq_false_iff.mpr fun hover =>
      absurd (hdone hover).1 (Bool.eq_false_iff.mp hruns)
  · obtain ⟨es', hes', rfl⟩ := Option.map_eq_some_iff.mp hes
    obtain ⟨rfl, hover, hfixed, hspawning⟩ := h.silent es' hes'
    obtain ⟨hover', rfl⟩ := hdone hover
    exact ⟨rfl, hover', hstarted hfixed, hspawning⟩

/-- A call that begins while no other is under way leaves a client calm. -/
theorem Calm.enter (h : w.Calm) {stage : Option CallStage}
    (hstage : ∀ s ∈ stage, s.isBarred = false ∧ s ≠ .spawning)
    (halone : (w.enter stage).overlapped = false) : (w.enter stage).Calm := by
  have hnone : w.calls = [] := by
    have hempty := (Bool.or_eq_false_iff.mp halone).2
    simpa using hempty
  have hcalls : (w.enter stage).calls = stage.toList := by
    unfold Owned.enter
    rw [hnone, List.nil_append]
  have hmem {s : CallStage} (hs : s ∈ (w.enter stage).calls) : s ∈ stage := by
    rw [hcalls] at hs
    exact Option.mem_toList.mp hs
  refine ⟨?_, fun hruns => ?_, fun s hs hbarred => ?_, fun hending => ?_, fun es hes => ?_⟩
  · rw [hcalls]
    cases stage <;> simp
  · rcases h.kept hruns with hkept | hcalls' | hcalls'
    · exact Or.inl hkept
    · exact absurd (hnone.symm.trans hcalls') (by simp)
    · exact absurd (hnone.symm.trans hcalls') (by simp)
  · exact absurd ((hstage s (hmem hs)).1.symm.trans hbarred) Bool.noConfusion
  · exact absurd (hstage _ (hmem hending)).1 Bool.noConfusion
  · obtain ⟨hnothing, hover, hfixed, -⟩ := h.silent es hes
    exact ⟨hnothing, hover, hfixed, fun hspawning => (hstage _ (hmem hspawning)).2 rfl⟩

/-- **A call that goes on alone leaves a client calm.** -/
theorem Calm.proceed (h : w.Calm) (hcalls : w.calls = [stage])
    (hproceed : w.proceed [] [] stage = some w') : w'.Calm := by
  have hkept (hruns : w.client.isDone = false) (hstoring : stage ≠ .storing)
      (hawaiting : stage ≠ .awaiting) : w.holdsSession = true := by
    rcases h.kept hruns with hkept | hcalls' | hcalls'
    · exact hkept
    · exact absurd (List.singleton_inj.mp (hcalls.symm.trans hcalls')) hstoring
    · exact absurd (List.singleton_inj.mp (hcalls.symm.trans hcalls')) hawaiting
  have hstage : stage ∈ w.calls := hcalls ▸ List.mem_singleton_self stage
  cases stage with
  | taking =>
    rcases proceed_taking hproceed with ⟨hfixed, rfl⟩ | ⟨hfree, rfl⟩
    · refine ⟨Nat.zero_le 1, fun hruns => Or.inl (hkept hruns nofun nofun), nofun, nofun,
        fun es hes => ?_⟩
      obtain ⟨hnothing, hover, -, -⟩ := h.silent es hes
      exact ⟨hnothing, hover, hfixed, List.not_mem_nil⟩
    · refine ⟨Nat.le_refl 1, fun hruns => Or.inl (hkept hruns nofun nofun), fun _ _ _ => rfl,
        fun hending => absurd (List.mem_singleton.mp hending) nofun, fun es hes => ?_⟩
      exact absurd ((h.silent es hes).2.2.1.symm.trans hfree) Bool.noConfusion
  | spawning =>
    cases hproceed
    refine ⟨Nat.le_refl 1, fun _ => Or.inr (Or.inl rfl), fun s hs hbarred => ?_,
      fun hending => absurd (List.mem_singleton.mp hending) nofun, fun es hes => ?_⟩
    · obtain rfl := List.mem_singleton.mp hs
      exact absurd hbarred Bool.noConfusion
    · exact absurd hstage (h.silent es hes).2.2.2
  | storing =>
    cases hproceed
    refine ⟨Nat.zero_le 1, fun _ => Or.inl rfl, nofun, nofun, fun es hes => ?_⟩
    obtain ⟨hnothing, hover, hfixed, -⟩ := h.silent es hes
    exact ⟨hnothing, hover, hfixed, List.not_mem_nil⟩
  | sealing =>
    cases hproceed
    refine ⟨Nat.le_refl 1, fun hruns => Or.inl (hkept hruns nofun nofun), fun _ _ _ => rfl,
      fun hending => absurd (List.mem_singleton.mp hending) nofun, fun es hes => ?_⟩
    obtain ⟨hnothing, hover, -, -⟩ := h.silent es hes
    exact ⟨hnothing, hover, rfl, fun hspawning => absurd (List.mem_singleton.mp hspawning) nofun⟩
  | collecting =>
    have hfixed := h.barred _ hstage rfl
    cases hproceed
    cases hholds : w.holdsSession with
    | true =>
      refine ⟨Nat.le_refl 1, fun _ => Or.inr (Or.inr rfl), fun _ _ _ => hfixed,
        fun hending => absurd (List.mem_singleton.mp hending) nofun, fun es hes => ?_⟩
      obtain ⟨hnothing, hover, -, -⟩ := h.silent es hes
      exact ⟨hnothing, hover, hfixed,
        fun hspawning => absurd (List.mem_singleton.mp hspawning) nofun⟩
    | false =>
      -- no session is kept, so none runs
      have hover : w.client.isDone = true := by
        cases hruns : w.client.isDone with
        | true => rfl
        | false => exact absurd (hholds.symm.trans (hkept hruns nofun nofun)) Bool.noConfusion
      refine ⟨Nat.le_refl 1, fun hruns => absurd (hover.symm.trans hruns) Bool.noConfusion,
        fun _ _ _ => hfixed, fun _ => hover, fun es hes => ?_⟩
      exact ⟨(h.silent es hes).1, hover, hfixed,
        fun hspawning => absurd (List.mem_singleton.mp hspawning) nofun⟩
  | awaiting =>
    have hfixed := h.barred _ hstage rfl
    obtain ⟨hover, rfl⟩ := proceed_awaiting hproceed
    refine ⟨Nat.le_refl 1, fun hruns => absurd (hover.symm.trans hruns) Bool.noConfusion,
      fun _ _ _ => hfixed, fun _ => hover, fun es hes => ?_⟩
    exact ⟨(h.silent es hes).1, hover, hfixed,
      fun hspawning => absurd (List.mem_singleton.mp hspawning) nofun⟩
  | ending =>
    have hfixed : w.client.close.started = true :=
      (Client.publish_started _ _).trans (h.barred _ hstage rfl)
    have hover : w.client.close.isDone = true :=
      (Client.isDone_of_phase (Client.close_phase _)).trans (h.ended hstage)
    cases hproceed
    refine ⟨Nat.zero_le 1, fun hruns => absurd (hover.symm.trans hruns) Bool.noConfusion, nofun,
      nofun, fun es hes => ⟨?_, hover, hfixed, List.not_mem_nil⟩⟩
    obtain rfl := Option.some.inj hes
    cases hsince : w.since with
    | none => rfl
    | some es' =>
      rw [(h.silent es' hsince).1]
      rfl

/-! ## Runs -/

/-- What holds of a client and its calls at any time. -/
structure Lawful (w : Owned) : Prop where
  ordered : Ordered w.client w.earlier
  single : w.Single
  calm : w.overlapped = false → w.Calm

/-- A client that becomes another, without being started, stays lawful. -/
theorem Lawful.follow (h : w.Lawful) {c : Client} {effects : List Effect}
    (hordered : Ordered c (outdated w.earlier w.client c))
    (hstarted : c.started = w.client.started)
    (hidle : w.client.phase = .idle → c.phase = .idle)
    (hdone : w.client.isDone = true → c.isDone = true ∧ effects = []) :
    (w.follow c effects).Lawful :=
  ⟨hordered, h.single.follow effects hstarted hidle,
    fun halone => (h.calm halone).follow hdone hstarted.trans⟩

/-- A step leaves a client lawful. -/
theorem Lawful.step (h : w.Lawful) {now : Nat} {e : Event} {effects : List Effect}
    (hstep : w.client.step now e = some (c, effects)) : (w.follow c effects).Lawful := by
  -- a session that is over goes no step
  have hruns (hdone : w.client.isDone = true) : False := by
    exact absurd ((Client.step_of_isDone hdone now e).symm.trans hstep) (by simp)
  refine h.follow (h.ordered.step hstep) (h.ordered.orderly.coherent.shift hstep).started
    (fun hidle => (hruns ?_).elim) fun hdone => (hruns hdone).elim
  unfold Client.isDone
  rw [hidle]

/-- A change of the subscriptions leaves a client lawful. -/
theorem Lawful.change (h : w.Lawful) (horderly : c.Orderly) (hstate : c.state = w.client.state)
    (hphase : c.phase = w.client.phase) (hstarted : c.started = w.client.started) :
    (w.follow c []).Lawful := by
  refine h.follow ?_ hstarted hphase.trans fun hdone =>
    ⟨(Client.isDone_of_phase hphase).trans hdone, rfl⟩
  unfold outdated
  rw [if_pos hstate]
  exact h.ordered.of_state horderly hstate fun hbegun => hphase.symm ▸ hbegun

/-- A call that begins leaves a client lawful. -/
theorem Lawful.enter (h : w.Lawful) (stage : Option CallStage)
    (hstage : ∀ s ∈ stage, s.isStart = false ∧ s.isBarred = false) : (w.enter stage).Lawful := by
  refine ⟨h.ordered, h.single.enter fun s hs => (hstage s hs).1, fun halone => ?_⟩
  have hcalm := h.calm (Bool.or_eq_false_iff.mp halone).1
  refine hcalm.enter (fun s hs => ⟨(hstage s hs).2, ?_⟩) halone
  rintro rfl
  exact absurd (hstage _ hs).1 Bool.noConfusion

/-- A call that fails because the client is closed leaves it lawful. -/
theorem Lawful.refuse (h : w.Lawful) :
    Lawful { w with starts := w.starts ++ [⟨true, some .closed⟩] } := by
  have hcount : startCount { w with starts := w.starts ++ [⟨true, some .closed⟩] } =
      w.startCount := by
    unfold startCount
    rw [List.countP_append]
    rfl
  refine ⟨h.ordered, ⟨hcount ▸ h.single.atMostOne, hcount ▸ h.single.unstarted, h.single.idle,
    fun o ho => ?_⟩, fun halone => ?_⟩
  · rcases List.mem_append.mp ho with ho | ho
    · exact h.single.refused o ho
    · obtain rfl := List.mem_singleton.mp ho
      exact ⟨fun _ => rfl, fun _ => rfl⟩
  · have hcalm := h.calm halone
    exact ⟨hcalm.few, hcalm.kept, hcalm.barred, hcalm.ended, hcalm.silent⟩

/-- A call that goes on keeps the order of the states. -/
theorem Lawful.ordered_proceed (h : w.Lawful) (hcalls : w.calls = before ++ stage :: after)
    (hproceed : w.proceed before after stage = some w') : Ordered w'.client w'.earlier := by
  have hbarred : Ordered w.client.barStart w.earlier :=
    h.ordered.of_state ⟨h.ordered.orderly.coherent, fun hfree => absurd hfree Bool.noConfusion⟩ rfl
      id
  cases stage with
  | taking =>
    rcases proceed_taking hproceed with ⟨-, rfl⟩ | ⟨-, rfl⟩
    · exact h.ordered
    · exact hbarred
  | spawning =>
    cases hproceed
    have hstarted : w.client.started = true := by
      refine eq_true_of_ne_false fun hfree => ?_
      have hzero := h.single.unstarted hfree
      rw [startCount_of_calls hcalls] at hzero
      exact absurd hzero (by simp [CallStage.isStart])
    have hspawning : CallStage.spawning ∈ w.calls :=
      hcalls ▸ List.mem_append_right _ List.mem_cons_self
    exact h.ordered.spawn hstarted (h.single.idle hspawning)
  | storing =>
    cases hproceed
    exact h.ordered
  | sealing =>
    cases hproceed
    exact hbarred
  | collecting =>
    cases hproceed
    exact h.ordered
  | awaiting =>
    obtain ⟨-, rfl⟩ := proceed_awaiting hproceed
    exact h.ordered
  | ending =>
    cases hproceed
    exact h.ordered.close

/-- Calls that go on do not overlap for that. -/
theorem proceed_overlapped (hproceed : w.proceed before after stage = some w') :
    w'.overlapped = w.overlapped := by
  cases stage with
  | taking => rcases proceed_taking hproceed with ⟨-, rfl⟩ | ⟨-, rfl⟩ <;> rfl
  | awaiting =>
    obtain ⟨-, rfl⟩ := proceed_awaiting hproceed
    rfl
  | _ =>
    cases hproceed
    rfl

/-- A call that goes on leaves a client lawful. -/
theorem Lawful.proceed (h : w.Lawful) (hcalls : w.calls = before ++ stage :: after)
    (hproceed : w.proceed before after stage = some w') : w'.Lawful := by
  refine ⟨h.ordered_proceed hcalls hproceed, h.single.proceed h.ordered.orderly hcalls hproceed,
    fun halone => ?_⟩
  have hcalm := h.calm ((proceed_overlapped hproceed).symm.trans halone)
  -- the call is the only one
  have hfew := hcalm.few
  rw [hcalls, List.length_append, List.length_cons] at hfew
  obtain rfl := List.eq_nil_of_length_eq_zero (show before.length = 0 by omega)
  obtain rfl := List.eq_nil_of_length_eq_zero (show after.length = 0 by omega)
  exact hcalm.proceed hcalls hproceed

/-- **A move leaves a client lawful.** -/
theorem Lawful.move (h : w.Lawful) {m : OwnedMove} (hmove : w.move m = some w') : w'.Lawful := by
  cases m with
  | step now e =>
    obtain ⟨⟨c, effects⟩, hstep, rfl⟩ := Option.map_eq_some_iff.mp hmove
    exact h.step hstep
  | subscribe i =>
    cases hmove
    obtain ⟨hstate, hstarted⟩ := Client.subscribe_same w.client i
    have hphase := Client.subscribe_phase w.client i
    exact h.change (h.ordered.orderly.of_same hstate hphase hstarted) hstate hphase hstarted
  | unsubscribe i =>
    cases hmove
    obtain ⟨hstate, hstarted⟩ := Client.unsubscribe_same w.client i
    have hphase := Client.unsubscribe_phase w.client i
    exact h.change (h.ordered.orderly.of_same hstate hphase hstarted) hstate hphase hstarted
  | start =>
    simp only [Owned.move] at hmove
    split at hmove
    · cases hmove
      exact h.refuse.enter none nofun
    · cases hmove
      exact h.enter (some .taking) (by simp [CallStage.isStart, CallStage.isBarred])
  | stop =>
    cases hmove
    have horderly : w.client.askToStop.Orderly := h.ordered.orderly.of_same rfl rfl rfl
    exact (h.change horderly rfl rfl rfl).enter (some .sealing)
      (by simp [CallStage.isStart, CallStage.isBarred])
  | goOn k =>
    simp only [Owned.move] at hmove
    split at hmove
    · exact absurd hmove (by simp)
    · rename_i stage after hdrop
      exact h.proceed (hdrop ▸ (List.take_append_drop k w.calls).symm) hmove

/-- A run leaves a client lawful. -/
theorem Lawful.run (h : w.Lawful) {moves : List OwnedMove} (hrun : w.run moves = some w') :
    w'.Lawful := by
  apply foldlM_keeps _ h hrun
  intro m _ u u' hu hmove
  exact hu.move hmove

/-- **The life of a client.** -/
structure Lifecycle (w : Owned) : Prop where
  /-- It begins without a connection. -/
  first : (w.client.state :: w.earlier).getLast? = some .disconnected
  /-- Every state that was published is a successor of the one before. -/
  moves : (w.client.state :: w.earlier).IsChain fun later earlier => later ∈ earlier.successors
  /-- Closed is never left. -/
  closed : .closed ∉ w.earlier
  /-- Disconnected is left for connecting once at most. -/
  left : leavings (w.client.state :: w.earlier) ≤ 1
  /-- One of the calls that start the client succeeds at most. -/
  once : w.starts.countP (·.fault.isNone) ≤ 1
  /-- Those that fail do so because the client was closed, and else because it had been started or
  stopped. -/
  refused : ∀ o ∈ w.starts, o.fault = some .closed ↔ o.wasClosed = true
  /-- As long as calls do not overlap, the session does nothing after one that stops the client has
  returned. -/
  silent : w.overlapped = false → ∀ effects, w.since = some effects → effects = []

/-- **A client lives its life**, whatever happens to its session, and however its owner calls it. -/
theorem run_lifecycle {settings : ClientSettings} {moves : List OwnedMove}
    (hrun : (start settings).run moves = some w) : w.Lifecycle := by
  obtain ⟨hordered, hsingle, hcalm⟩ : w.Lawful :=
    Lawful.run ⟨ordered_new settings, single_start settings, fun _ => calm_start settings⟩ hrun
  refine ⟨hordered.first, hordered.moves, closed_not_mem hordered.moves, hordered.left,
    Nat.le_trans (Nat.le_add_right _ _) hsingle.atMostOne, hsingle.refused,
    fun halone effects hsince => ?_⟩
  exact ((hcalm halone).silent effects hsince).1

/-- A run in which the client is started three times and stopped twice, one call after another. -/
def twiceMoves : List OwnedMove :=
  let call (m : OwnedMove) (parts : Nat) : List OwnedMove := m :: List.replicate parts (.goOn 0)
  call .start 3 ++ [.step 0 .goOn, .step 1 (.dialed "one"), .step 2 .written] ++ call .start 1 ++
    [.stop, .goOn 0, .goOn 0, .step 3 .stopped, .step 4 .closed, .goOn 0, .goOn 0] ++
    call .start 0 ++ call .stop 3

/-- The first start succeeds, the second finds the client started, and the third finds it closed. -/
theorem run_lifecycle_twiceMoves : ∃ w,
    (start ⟨none, ["lp"], 30 * Clock.second, 60 * Clock.second, .standard⟩).run twiceMoves =
        some w ∧
      w.client.state :: w.earlier =
        [.closed, .disconnected, .connected, .connecting, .disconnected] ∧
      w.starts.map StartOutcome.fault = [none, some .alreadyStarted, some .closed] ∧
      w.overlapped = false ∧ w.since = some [] ∧ w.Lifecycle := by
  have h : ((start ⟨none, ["lp"], 30 * Clock.second, 60 * Clock.second, .standard⟩).run
      twiceMoves).map (fun w => (w.client.state :: w.earlier, w.starts.map StartOutcome.fault,
        w.overlapped, w.since.isSome)) =
      some ([.closed, .disconnected, .connected, .connecting, .disconnected],
        [none, some .alreadyStarted, some .closed], false, true) := by decide +kernel
  obtain ⟨w, hrun, hseen⟩ := Option.map_eq_some_iff.mp h
  simp only [Prod.mk.injEq] at hseen
  obtain ⟨hstates, hstarts, halone, hsince⟩ := hseen
  obtain ⟨effects, heffects⟩ := Option.isSome_iff_exists.mp hsince
  have hlife := run_lifecycle hrun
  exact ⟨w, hrun, hstates, hstarts, halone, hlife.silent halone effects heffects ▸ heffects, hlife⟩

end Owned

end CandleFeed

import CandleFeed.Proofs.Session.Link
import CandleFeed.Session.Intake

/-!
# Moves of a client

A **`ClientMove`** is a step of the session or a call of the owner, and **`Client.perform`** makes
it.  The owner's calls leave the state as it is, or close the client (`perform_call_state`), and
they leave what the session waits for (`subscribe_phase`, `close_phase`), unless they start it.  A
session that is over goes no step (`step_of_isDone`).  What a step hands over
(**`Effect.queued?`**) is queued in order (`Intake.foldl_receive_waiting`).
-/

namespace CandleFeed

/-- What happens to a client: its session goes a step, or its owner makes a call. -/
inductive ClientMove where
  | step (now : Nat) (e : Event)
  | subscribe (i : Instrument)
  | unsubscribe (i : Instrument)
  | connect
  | requestStop
  | close

namespace Client

/-- A client after a move, if it can happen, and what the session did outside. -/
def perform (c : Client) : ClientMove → Option (Client × List Effect)
  | .step now e => c.step now e
  | .subscribe i => some ((c.subscribe i).1, [])
  | .unsubscribe i => some ((c.unsubscribe i).1, [])
  | .connect =>
    match c.connect with
    | .ok c => some (c, [])
    | .error _ => none
  | .requestStop => some (c.requestStop, [])
  | .close => some (c.close, [])

/-- Queueing a change leaves the state as it is. -/
theorem queueChange_state (c : Client) (change : SubscriptionChange) :
    (c.queueChange change).state = c.state := by
  unfold queueChange
  split <;> rfl

/-- A client starts once, unless it has been closed. -/
theorem connect_eq_ok {c c' : Client} (h : c.connect = .ok c') :
    c.state ≠ .closed ∧ c.started = false ∧
      c' = { c with started := true, phase := .starting } := by
  unfold connect at h
  split at h
  · exact absurd h (by simp)
  · rename_i hopen
    split at h
    · exact absurd h (by simp)
    · rename_i hfresh
      exact ⟨hopen, Bool.not_eq_true _ ▸ hfresh, (Except.ok.inj h).symm⟩

/-- A call of the owner leaves the state as it is, or closed. -/
theorem perform_call_state {c c' : Client} {m : ClientMove} {effects : List Effect}
    (hm : ∀ now e, m ≠ .step now e) (h : c.perform m = some (c', effects)) :
    c'.state = c.state ∨ c'.state = .closed := by
  cases m with
  | step now e => exact absurd rfl (hm now e)
  | subscribe i =>
    cases h
    unfold subscribe
    split
    split
    · exact Or.inl (queueChange_state _ _)
    · exact Or.inl rfl
  | unsubscribe i =>
    cases h
    unfold unsubscribe
    split
    split
    · exact Or.inl (queueChange_state _ _)
    · exact Or.inl rfl
  | connect =>
    simp only [perform] at h
    split at h
    · rename_i hconnect
      cases h
      obtain ⟨-, -, rfl⟩ := connect_eq_ok hconnect
      exact Or.inl rfl
    · exact absurd h (by simp)
  | requestStop =>
    cases h
    exact Or.inl rfl
  | close =>
    cases h
    unfold close
    rw [publish_state, ite_self]
    exact Or.inr rfl

/-- Whether the session is over is told by its phase. -/
theorem isDone_of_phase {c c' : Client} (h : c'.phase = c.phase) : c'.isDone = c.isDone := by
  unfold isDone
  rw [h]

/-- A session that is over goes no step. -/
theorem step_of_isDone {c : Client} (h : c.isDone = true) (now : Nat) (e : Event) :
    c.step now e = none := by
  have hreact : c.react now e = none := by
    unfold isDone at h
    unfold react
    split at h
    · rename_i hphase
      rw [hphase]
    · rename_i hphase
      rw [hphase]
    · rename_i hphase
      rw [hphase]
    · exact absurd h (by simp)
  unfold step
  rw [hreact, ite_self]

/-- Queueing a change leaves the phase as it is. -/
theorem queueChange_phase (c : Client) (change : SubscriptionChange) :
    (c.queueChange change).phase = c.phase := by
  unfold queueChange
  split <;> rfl

/-- Subscribing leaves the phase as it is. -/
theorem subscribe_phase (c : Client) (i : Instrument) : (c.subscribe i).1.phase = c.phase := by
  unfold subscribe
  split
  split
  · exact queueChange_phase _ _
  · rfl

/-- Unsubscribing leaves the phase as it is. -/
theorem unsubscribe_phase (c : Client) (i : Instrument) : (c.unsubscribe i).1.phase = c.phase := by
  unfold unsubscribe
  split
  split
  · exact queueChange_phase _ _
  · rfl

/-- Closing leaves the phase as it is. -/
theorem close_phase (c : Client) : c.close.phase = c.phase := by
  unfold close publish
  split <;> rfl

end Client

/-- The payload that an effect of the client puts into the queue. -/
def Effect.queued? : Effect → Option SessionPayload
  | delivered session payload => some ⟨session, payload⟩
  | _ => none

namespace Intake

/-- What a client hands over is queued in order. -/
theorem foldl_receive_waiting (q : PayloadQueue) (effects : List Effect) :
    (effects.foldl receive q).waiting = q.waiting ++ effects.filterMap Effect.queued? := by
  induction effects generalizing q with
  | nil => simp
  | cons effect effects ih =>
    rw [List.foldl_cons, ih]
    cases effect <;> simp [receive, Effect.queued?, PayloadQueue.push, List.filterMap_cons]

end Intake

end CandleFeed

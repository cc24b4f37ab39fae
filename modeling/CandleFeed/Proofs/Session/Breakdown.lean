import CandleFeed.Session.Client

/-!
# When a session breaks down

A session needs a deadline at each of its waits.  Almost all of them end thirty years from now when
there is no instant so late; one does not.  After the last payload of a chunk the provider's silence
counts anew, and where that deadline does not exist the session breaks down.
**`Client.step_broken_iff`** says that it does so there and nowhere else.
-/

namespace CandleFeed

/-- What ends the work on a chunk: it came and completed no frame, or its last payload has been
echoed or handed over. -/
def Phase.endsChunk : Phase → Event → Bool
  | .listening _ l, .received chunk =>
    match Frame.feed l.pending chunk with
    | (.ok payloads, _) => payloads.isEmpty
    | (.error _, _) => false
  | .writing _ _ _ next, .written =>
    match next with
    | .process _ rest => rest.isEmpty
    | _ => false
  | .delivering _ _ _ rest, .taken => rest.isEmpty
  | _, _ => false

namespace Client

variable {c c' : Client} {now : Nat} {e : Event} {effects : List Effect}

/-- An attempt does not break down. -/
theorem attempt_phase_ne (c : Client) : c.attempt.1.phase ≠ .broken := by
  unfold attempt
  split <;> exact Phase.noConfusion

/-- The wait before an attempt does not break down. -/
theorem backOff_phase_ne (c : Client) (now : Nat) : (c.backOff now).phase ≠ .broken := by
  unfold backOff
  split <;> exact Phase.noConfusion

/-- Opening a session does not break down. -/
theorem greet_phase_ne (c : Client) (now : Nat) (session : String) (rest : List Command) :
    (c.greet now session rest).phase ≠ .broken := by
  cases rest <;> exact Phase.noConfusion

/-- Sending the subscriptions does not break down. -/
theorem resubscribe_phase_ne (c : Client) (now : Nat) (session : String) (rest : List Instrument) :
    (c.resubscribe now session rest).phase ≠ .broken := by
  cases rest <;> exact Phase.noConfusion

/-- Going on with a chunk breaks down if nothing is left of it and the deadline does not exist. -/
theorem process_phase_iff (c : Client) (now : Nat) (session : String) (l : Listening)
    (rest : List (List Char)) :
    (c.process now session l rest).phase = .broken ↔
      rest.isEmpty = true ∧ Clock.lastInstant < now + c.settings.heartbeatTimeout := by
  cases rest with
  | nil =>
    unfold process Clock.deadline?
    by_cases hroom : now + c.settings.heartbeatTimeout ≤ Clock.lastInstant
    · simp [hroom]
    · simp [hroom, Nat.lt_of_not_le hroom]
  | cons p rest =>
    simp only [process]
    split <;> simp [write]

/-- **A session breaks down exactly where the work on a chunk ends and the provider's silence would
be too long after the last instant.** -/
theorem step_broken_iff (h : c.step now e = some (c', effects)) :
    c'.phase = .broken ↔ c.phase.endsChunk e = true ∧
      Clock.lastInstant < now + c.settings.heartbeatTimeout := by
  have hreact := react_of_step h
  -- where no chunk ends, nothing breaks down
  have hgoes : ∀ {p : Phase} {c'' : Client}, c.phase = p → p.endsChunk e = false →
      c''.phase ≠ .broken → (c''.phase = .broken ↔ c.phase.endsChunk e = true ∧
        Clock.lastInstant < now + c.settings.heartbeatTimeout) := by
    intro p c'' hp hends hphase
    rw [hp, hends]
    exact iff_of_false hphase fun hand => absurd hand.1 Bool.false_ne_true
  unfold react at hreact
  split at hreact
  all_goals rename_i hphase
  · have hattempt : c.attempt.1 = c' := congrArg Prod.fst (Option.some.inj hreact)
    exact hattempt ▸ hgoes hphase rfl c.attempt_phase_ne
  · cases hreact
    exact hgoes hphase rfl (resubscribe_phase_ne _ _ _ _)
  · cases hreact
    exact hgoes hphase rfl Phase.noConfusion
  · cases hreact
    exact hgoes hphase rfl (greet_phase_ne _ _ _ _)
  · cases hreact
    exact hgoes hphase rfl (c.backOff_phase_ne now)
  · cases hreact
    exact hgoes hphase rfl Phase.noConfusion
  · -- a write is complete
    rename_i next
    cases hreact
    cases next with
    | greet rest => exact hgoes hphase rfl (greet_phase_ne _ _ _ _)
    | resubscribe rest => exact hgoes hphase rfl (resubscribe_phase_ne _ _ _ _)
    | listen l => exact hgoes hphase rfl Phase.noConfusion
    | process l rest =>
      rw [hphase]
      exact c.process_phase_iff now _ l rest
  iterate 5
    · cases hreact
      exact hgoes hphase rfl Phase.noConfusion
  · -- a change
    split at hreact
    · exact absurd hreact (by simp)
    · cases hreact
      exact hgoes hphase rfl Phase.noConfusion
  · -- a stable connection
    obtain ⟨_, -, hsame⟩ := Option.map_eq_some_iff.mp hreact
    cases hsame
    exact hgoes hphase rfl Phase.noConfusion
  · -- a chunk
    rw [hphase]
    unfold Phase.endsChunk
    split at hreact
    · rename_i hfeed
      cases hreact
      simp only [hfeed]
      exact iff_of_false Phase.noConfusion fun hand => absurd hand.1 Bool.false_ne_true
    · rename_i hfeed
      cases hreact
      simp only [hfeed]
      exact c.process_phase_iff now _ _ _
  · cases hreact
    exact hgoes hphase rfl Phase.noConfusion
  · cases hreact
    rw [hphase]
    exact c.process_phase_iff now _ _ _
  iterate 3
    · cases hreact
      exact hgoes hphase rfl Phase.noConfusion
  iterate 2
    · cases hreact
      exact hgoes hphase rfl (c.backOff_phase_ne now)
  · cases hreact
    exact hgoes hphase rfl c.attempt_phase_ne
  · have hattempt : c.attempt.1 = c' := congrArg Prod.fst (Option.some.inj hreact)
    exact hattempt ▸ hgoes hphase rfl c.attempt_phase_ne
  · exact absurd hreact (by simp)

/-- A listening session takes any chunk. -/
theorem step_received {session : String} {l : Listening} (hphase : c.phase = .listening session l)
    (now : Nat) (chunk : List Char) :
    ∃ c' effects, c.step now (.received chunk) = some (c', effects) := by
  have hdue : c.isDue now (.received chunk) = true := rfl
  unfold step react
  rw [if_pos hdue, hphase]
  simp only
  split
  · exact ⟨_, _, rfl⟩
  · exact ⟨_, _, rfl⟩

end Client

end CandleFeed

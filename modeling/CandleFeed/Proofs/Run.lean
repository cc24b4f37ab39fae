/-!
# Runs

A run takes one step after another, and there is none where a step cannot be taken.  What each of
its steps keeps holds after the run (**`foldlM_keeps`**), so that a proof about runs needs to look at
one step only.
-/

namespace CandleFeed

/-- **What every step of a run keeps** holds after the run. -/
theorem foldlM_keeps {State Step : Type} {take : State → Step → Option State} {P : State → Prop}
    {steps : List Step} (hkeeps : ∀ step ∈ steps, ∀ s s', P s → take s step = some s' → P s')
    {s s' : State} (hs : P s) (hrun : steps.foldlM take s = some s') : P s' := by
  induction steps generalizing s with
  | nil =>
    obtain rfl := Option.some.inj hrun
    exact hs
  | cons step steps ih =>
    obtain ⟨hfirst, hothers⟩ := List.forall_mem_cons.mp hkeeps
    rw [List.foldlM_cons] at hrun
    obtain ⟨s'', htake, hrest⟩ := Option.bind_eq_some_iff.mp hrun
    exact ih hothers (hfirst s s'' hs htake) hrest

end CandleFeed

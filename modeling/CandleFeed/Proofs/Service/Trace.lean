import CandleFeed.Proofs.Service.Moves

/-!
# What a trace tells

A trace has everything that happened in one list.  Payloads are queued (`queuedIn`) and dispatched
(`dispatchedIn`), and the engine is called (`callsIn`) and emits bars (`emittedIn`).  Each of these
is a list of its own, in the order in which it happened, and what happens later is added at its end.
-/

namespace CandleFeed

/-- The payloads that were queued. -/
def queuedIn (trace : List Happening) : List SessionPayload := trace.filterMap Happening.queued?

/-- The payloads that were dispatched, and what became of them. -/
def dispatchedIn (trace : List Happening) : List (SessionPayload × Dispatched) :=
  trace.filterMap Happening.dispatched?

/-- The calls of the engine, and the bars that they emitted. -/
def callsIn (trace : List Happening) : List (EngineCall × List ClosedBar) :=
  trace.filterMap Happening.called?

/-- The bars that the engine emitted. -/
def emittedIn (trace : List Happening) : List ClosedBar := (callsIn trace).flatMap Prod.snd

/-- The ticks of the payloads that were dispatched as ticks. -/
def acceptedIn (trace : List Happening) : List Tick :=
  (dispatchedIn trace).filterMap fun d => d.2.tick?.map Quote.tick

@[simp] theorem queuedIn_append (trace trace' : List Happening) :
    queuedIn (trace ++ trace') = queuedIn trace ++ queuedIn trace' := List.filterMap_append

@[simp] theorem dispatchedIn_append (trace trace' : List Happening) :
    dispatchedIn (trace ++ trace') = dispatchedIn trace ++ dispatchedIn trace' :=
  List.filterMap_append

@[simp] theorem callsIn_append (trace trace' : List Happening) :
    callsIn (trace ++ trace') = callsIn trace ++ callsIn trace' := List.filterMap_append

@[simp] theorem emittedIn_append (trace trace' : List Happening) :
    emittedIn (trace ++ trace') = emittedIn trace ++ emittedIn trace' := by
  simp [emittedIn]

@[simp] theorem acceptedIn_append (trace trace' : List Happening) :
    acceptedIn (trace ++ trace') = acceptedIn trace ++ acceptedIn trace' := by
  simp [acceptedIn]

/-- Payloads that are queued are neither dispatched, nor do they reach the engine. -/
@[simp] theorem projections_map_queued (payloads : List SessionPayload) :
    queuedIn (payloads.map .queued) = payloads ∧ dispatchedIn (payloads.map .queued) = [] ∧
      callsIn (payloads.map .queued) = [] ∧ emittedIn (payloads.map .queued) = [] ∧
      acceptedIn (payloads.map .queued) = [] := by
  simp [queuedIn, dispatchedIn, callsIn, emittedIn, acceptedIn, List.filterMap_map,
    Function.comp_def, Happening.queued?, Happening.dispatched?, Happening.called?]

end CandleFeed

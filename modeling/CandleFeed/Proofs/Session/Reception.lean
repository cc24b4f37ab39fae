import CandleFeed.Proofs.Session.Link
import CandleFeed.Proofs.Session.Moves
import CandleFeed.Proofs.Wire.Stream

/-!
# What a connection makes of the text it receives

A **`Reception`** is the record of one connection: the chunks that came, what was written, and the
payloads that were handed over.  What the connection should make of payloads is
**`Reception.Handled`**: it sends back the heartbeats among them and hands over the others, each
with the name of its session.

* **`Reception.Keeps`**: while a connection stands, it has handled the payloads that its text
  completes, up to those that its phase still has in hand (**`Phase.inHand`**).
* **`Reception.Exact`**: a connection that is over has handled all of them, or those before a
  heartbeat that it could not send back, or those before a chunk with a fault in it.
* `keeps_greet`, `keeps_resubscribe`, `keeps_process`: what the parts of a step make of the first.

The frames in the text are told from the text alone, from the beginning of the connection on, so
neither where it is cut nor what came on another connection has a part in it.
-/

namespace CandleFeed

open Outgoing

/-! ## Parts of a phase -/

namespace Outgoing

/-- It sends a heartbeat back. -/
def isEcho : Outgoing → Bool
  | echo _ => true
  | _ => false

/-- The session that it announces. -/
def announced? : Outgoing → Option String
  | command (.createSession session) => some session
  | _ => none

/-- The sessions that are announced. -/
def announcedIn (outgoing : List Outgoing) : List String := outgoing.filterMap announced?

@[simp] theorem announcedIn_append (os os' : List Outgoing) :
    announcedIn (os ++ os') = announcedIn os ++ announcedIn os' := List.filterMap_append

/-- A change announces no session, and is no heartbeat. -/
theorem of_isChange {o : Outgoing} (h : o.isChange = true) :
    o.announced? = none ∧ o.isEcho = false := by
  cases o with
  | echo p => exact absurd h Bool.false_ne_true
  | command c => cases c <;> first | exact ⟨rfl, rfl⟩ | exact absurd h Bool.false_ne_true

end Outgoing

namespace Phase

/-- The payloads of a chunk that the session is still at work on. -/
def inHand : Phase → List (List Char)
  | writing _ o _ (.process _ rest) => o.payload :: rest
  | delivering _ _ p rest => p :: rest
  | _ => []

/-- Text that is part of a frame. -/
def pending : Phase → List Char
  | writing _ _ _ (.listen l) => l.pending
  | writing _ _ _ (.process l _) => l.pending
  | listening _ l => l.pending
  | delivering _ l _ _ => l.pending
  | _ => []

/-- What is being written. -/
def outgoing? : Phase → Option Outgoing
  | writing _ o _ _ => some o
  | _ => none

/-- A heartbeat is sent back and no other payload is, and what else is written on a connection that
has its list of subscriptions changes these. -/
def Proper : Phase → Prop
  | writing _ o _ (.greet _) => o.isEcho = false
  | writing _ o _ (.process _ _) => Message.isHeartbeat o.payload = true ∧ o = .echo o.payload
  | writing _ o _ _ => o.isChange = true
  | delivering _ _ p _ => Message.isHeartbeat p = false
  | _ => True

end Phase

namespace Event

/-- The chunk that has come. -/
def chunk? : Event → Option (List Char)
  | received chunk => some chunk
  | _ => none

/-- A write that goes on is given up. -/
def endsWrite : Event → Bool
  | writeFailed => true
  | timeUp => true
  | stopped => true
  | _ => false

end Event

/-! ## The record of a connection -/

/-- What a connection received and what it made of it. -/
structure Reception where
  /-- The name of its session. -/
  session : String
  /-- The chunks that came. -/
  heard : List (List Char)
  /-- Everything that was written. -/
  written : List Outgoing
  /-- The payloads that were handed over. -/
  handed : List SessionPayload
  /-- The write that was given up, if one was. -/
  failed : Option Outgoing

namespace Reception

/-- A connection that stands. -/
def begin (session : String) : Reception := ⟨session, [], [], [], none⟩

/-- The record after a step from a phase. -/
def note (r : Reception) (p : Phase) (e : Event) (effects : List Effect) : Reception where
  session := r.session
  heard := r.heard ++ e.chunk?.toList
  written := r.written ++ Effect.written effects
  handed := r.handed ++ effects.filterMap Effect.queued?
  failed := r.failed.or (if e.endsWrite then p.outgoing? else none)

/-- All the text that came. -/
def text (r : Reception) : List Char := r.heard.flatten

/-- The sessions that were announced. -/
def announced (r : Reception) : List String := announcedIn r.written

/-- The frames that sent heartbeats back. -/
def echoed (r : Reception) : List (List Char) := (r.written.filter isEcho).map Outgoing.frame

/-- **Payloads have been handled**: the heartbeats among them were sent back, in their frames, and
the others were handed over with the name of the session, each once and in order. -/
structure Handled (r : Reception) (payloads : List (List Char)) : Prop where
  handed : r.handed =
    (payloads.filter (!Message.isHeartbeat ·)).map (⟨r.session, ·⟩)
  echoed : r.echoed = (payloads.filter Message.isHeartbeat).map Frame.encode

/-- **What a connection that is over has made of its text.** -/
inductive Exact (r : Reception) : Prop
  /-- Every chunk was gone through to its end. -/
  | whole (payloads : List (List Char)) (pending : List Char)
      (hread : Frame.drain r.text = .ok (payloads, pending)) (hhandled : r.Handled payloads)
  /-- The last chunk was cut short by a heartbeat that could not be sent back. -/
  | cutShort (earlier : List (List Char)) (chunk : List Char)
      (done before after : List (List Char)) (heartbeat pending pending' : List Char)
      (hheard : r.heard = earlier ++ [chunk])
      (hearlier : Frame.drain earlier.flatten = .ok (done, pending))
      (hchunk : Frame.feed pending chunk = (.ok (before ++ heartbeat :: after), pending'))
      (hheartbeat : Message.isHeartbeat heartbeat = true)
      (hfailed : r.failed = some (.echo heartbeat)) (hhandled : r.Handled (done ++ before))
  /-- There was a fault in the last chunk. -/
  | unreadable (earlier : List (List Char)) (chunk : List Char) (done : List (List Char))
      (pending : List Char) (fault : FrameFault) (hheard : r.heard = earlier ++ [chunk])
      (hearlier : Frame.drain earlier.flatten = .ok (done, pending))
      (hchunk : (Frame.feed pending chunk).1 = .error fault) (hhandled : r.Handled done)

/-- The session was announced before any text came, and no other was. -/
def Announced (r : Reception) : Prop :=
  r.announced <+: [r.session] ∧ (r.heard ≠ [] → r.announced = [r.session])

/-- The connection has handled what its text completes, up to the payloads of the last chunk that
are still in hand. -/
inductive Reads (r : Reception) (inHand : List (List Char)) (pending : List Char) : Prop
  /-- Every chunk was gone through to its end. -/
  | between (payloads : List (List Char)) (hinHand : inHand = [])
      (hread : Frame.drain r.text = .ok (payloads, pending)) (hhandled : r.Handled payloads)
  /-- The last chunk is being gone through. -/
  | within (earlier : List (List Char)) (chunk : List Char) (done before : List (List Char))
      (pending' : List Char) (hheard : r.heard = earlier ++ [chunk])
      (hearlier : Frame.drain earlier.flatten = .ok (done, pending'))
      (hchunk : Frame.feed pending' chunk = (.ok (before ++ inHand), pending))
      (hhandled : r.Handled (done ++ before))

end Reception

/-- The session of a connection. -/
def Link.session? : Link → Option String
  | down => none
  | opening session => some session
  | up session => some session

/-- A write is on a connection. -/
theorem Phase.session?_writing (session : String) (o : Outgoing) (deadline : Nat)
    (next : AfterWrite) : (writing session o deadline next).link.session? = some session := by
  cases next <;> rfl

namespace Reception

/-- **What holds of a connection that stands**, in a phase. -/
structure Keeps (r : Reception) (p : Phase) : Prop where
  session : p.link.session? = some r.session
  proper : p.Proper
  unfailed : r.failed = none
  announced : r.announced ++ announcedIn p.unwritten = [r.session]
  fresh : p.link = .opening r.session → r.heard = []
  reads : r.Reads p.inHand p.pending

/-- **What holds of a connection that is over.** -/
structure Over (r : Reception) : Prop where
  made : r.Exact
  announced : r.Announced

variable {r : Reception}

/-! ## Payloads -/

/-- A chunk that completes payloads is one with what was pending. -/
theorem drain_of_feed {pending chunk pending' : List Char} {payloads : List (List Char)}
    (h : Frame.feed pending chunk = (.ok payloads, pending')) :
    Frame.drain (pending ++ chunk) = .ok (payloads, pending') := by
  unfold Frame.feed at h
  split at h
  · exact absurd (congrArg Prod.fst h) (by simp)
  · rename_i hdrain
    obtain ⟨hpayloads, rfl⟩ := Prod.mk.inj h
    rw [hdrain, Except.ok.inj hpayloads]

/-- With nothing in hand, all that the text completes has been handled. -/
theorem Reads.whole {pending : List Char} (h : r.Reads [] pending) :
    ∃ payloads, Frame.drain r.text = .ok (payloads, pending) ∧ r.Handled payloads := by
  cases h with
  | between payloads _ hread hhandled => exact ⟨payloads, hread, hhandled⟩
  | within earlier chunk done before pending' hheard hearlier hchunk hhandled =>
    rw [List.append_nil] at hchunk
    refine ⟨done ++ before, ?_, hhandled⟩
    unfold text
    rw [hheard, List.flatten_append, List.flatten_singleton]
    exact Frame.drain_append_ok hearlier (drain_of_feed hchunk)

/-- A connection that nothing came on has handled all of it. -/
theorem handled_nil (session : String) (written : List Outgoing) (failed : Option Outgoing)
    (hquiet : ∀ o ∈ written, o.isEcho = false) :
    Handled ⟨session, [], written, [], failed⟩ [] := by
  refine ⟨rfl, ?_⟩
  unfold echoed
  rw [List.filter_eq_nil_iff.mpr fun o ho => by rw [hquiet o ho]; exact Bool.false_ne_true]
  rfl

/-- A step that neither hands over nor sends a heartbeat back leaves handled what is. -/
theorem Handled.note {payloads : List (List Char)} (h : r.Handled payloads) (p : Phase) (e : Event)
    {effects : List Effect} (hhanded : effects.filterMap Effect.queued? = [])
    (hquiet : ∀ o ∈ Effect.written effects, o.isEcho = false) :
    (r.note p e effects).Handled payloads := by
  refine ⟨?_, ?_⟩
  · unfold Reception.note
    rw [hhanded, List.append_nil]
    exact h.handed
  · have hnone : (Effect.written effects).filter isEcho = [] :=
      List.filter_eq_nil_iff.mpr fun o ho => by rw [hquiet o ho]; exact Bool.false_ne_true
    unfold Reception.note Reception.echoed
    rw [List.filter_append, hnone, List.append_nil]
    exact h.echoed

/-- A payload that is handed over has been handled. -/
theorem Handled.deliver {payloads : List (List Char)} (h : r.Handled payloads) {payload : List Char}
    (hpayload : Message.isHeartbeat payload = false) (p : Phase) (e : Event) :
    (r.note p e [.delivered r.session payload]).Handled (payloads ++ [payload]) := by
  refine ⟨?_, ?_⟩
  · change r.handed ++ [⟨r.session, payload⟩] = _
    rw [h.handed, List.filter_append, List.filter_cons_of_pos (by rw [hpayload]; rfl),
      List.map_append]
    rfl
  · rw [List.filter_append, List.filter_cons_of_neg (by rw [hpayload]; exact Bool.false_ne_true),
      List.filter_nil, List.append_nil, ← h.echoed]
    unfold Reception.note Reception.echoed
    exact congrArg (fun os => (os.filter isEcho).map Outgoing.frame) (List.append_nil r.written)

/-- A heartbeat that is sent back has been handled. -/
theorem Handled.echo {payloads : List (List Char)} (h : r.Handled payloads) {payload : List Char}
    (hpayload : Message.isHeartbeat payload = true) (p : Phase) (e : Event) :
    (r.note p e [.wrote (.echo payload), .counted .heartbeats]).Handled
      (payloads ++ [payload]) := by
  refine ⟨?_, ?_⟩
  · rw [List.filter_append, List.filter_cons_of_neg (by rw [hpayload]; exact Bool.noConfusion),
      List.filter_nil, List.append_nil]
    exact (List.append_nil r.handed).trans h.handed
  · rw [List.filter_append, List.filter_cons_of_pos hpayload, List.map_append, ← h.echoed]
    change ((r.written ++ [Outgoing.echo payload]).filter isEcho).map Outgoing.frame = _
    rw [List.filter_append, List.map_append]
    rfl

/-! ## Steps that leave the payloads in hand -/

/-- What has been read stays read while the text is the same and what was handled is. -/
theorem Reads.of_handled {r' : Reception} {inHand : List (List Char)} {pending : List Char}
    (h : r.Reads inHand pending) (hheard : r'.heard = r.heard)
    (hhandled : ∀ payloads, r.Handled payloads → r'.Handled payloads) :
    r'.Reads inHand pending := by
  cases h with
  | between payloads hinHand hread hdone =>
    refine .between payloads hinHand ?_ (hhandled _ hdone)
    unfold text at hread ⊢
    rw [hheard]
    exact hread
  | within earlier chunk done before pending' hearlier hread hchunk hdone =>
    exact .within earlier chunk done before pending' (hheard.trans hearlier) hread hchunk
      (hhandled _ hdone)

/-- A step that hears, writes and hands over nothing, and gives no write up, leaves the record. -/
theorem note_of_quiet {p : Phase} {e : Event} {effects : List Effect} (hchunk : e.chunk? = none)
    (hwritten : Effect.written effects = []) (hhanded : effects.filterMap Effect.queued? = [])
    (hwrite : e.endsWrite = true → p.outgoing? = none) : r.note p e effects = r := by
  unfold note
  rw [hchunk, hwritten, hhanded]
  have hfailed : r.failed.or (if e.endsWrite then p.outgoing? else none) = r.failed := by
    split
    · rename_i hends
      rw [hwrite hends, Option.or_none]
    · exact Option.or_none
  rw [hfailed]
  simp

/-- On a connection that has its list of subscriptions, no session is announced any more. -/
theorem announcedIn_unwritten {p : Phase} {session : String} (hproper : p.Proper)
    (hlink : p.link = .up session) : announcedIn p.unwritten = [] := by
  have hadds (session : String) (rest : List Instrument) :
      announcedIn ((rest.map SubscriptionChange.add).map (·.on session)) = [] := by
    unfold announcedIn
    rw [List.filterMap_eq_nil_iff]
    intro o ho
    obtain ⟨change, -, rfl⟩ := List.mem_map.mp ho
    exact (of_isChange (isChange_on session change)).1
  unfold Phase.unwritten
  split
  · rename_i session' o deadline next
    have hfirst : o.announced? = none := by
      cases next with
      | greet rest => exact absurd hlink Link.noConfusion
      | resubscribe rest => exact (of_isChange hproper).1
      | listen l => exact (of_isChange hproper).1
      | process l rest =>
        rw [hproper.2]
        rfl
    change List.filterMap announced? (o :: _) = []
    rw [List.filterMap_cons_none hfirst]
    cases next with
    | greet rest => exact absurd hlink Link.noConfusion
    | resubscribe rest => exact hadds session' rest
    | listen l => rfl
    | process l rest => rfl
  · rfl

/-- What a connection that stands has announced. -/
theorem Keeps.announces {p : Phase} (h : r.Keeps p) : r.Announced := by
  refine ⟨⟨_, h.announced⟩, fun hheard => ?_⟩
  have hannounced := h.announced
  have hsession := h.session
  cases hlink : p.link with
  | down =>
    rw [hlink] at hsession
    exact absurd hsession (by simp [Link.session?])
  | opening session =>
    rw [hlink] at hsession
    exact absurd (h.fresh (hlink.trans (congrArg Link.opening (Option.some.inj hsession)))) hheard
  | up session =>
    rwa [announcedIn_unwritten h.proper hlink, List.append_nil] at hannounced

/-- On a connection that has its list of subscriptions, the session has been announced. -/
theorem Keeps.announced_of_up {p : Phase} (h : r.Keeps p) {session : String}
    (hlink : p.link = .up session) : r.announced = [r.session] := by
  have hannounced := h.announced
  rwa [announcedIn_unwritten h.proper hlink, List.append_nil] at hannounced

/-! ## The parts of a step -/

/-- The rest of the opening goes on to be written. -/
theorem keeps_greet (c : Client) (now : Nat) {rest : List Command}
    (hunfailed : r.failed = none)
    (hannounced : r.announced ++ announcedIn (rest.map .command) = [r.session])
    (hheard : r.heard = []) (hreads : r.Reads [] []) :
    r.Keeps (c.greet now r.session rest).phase := by
  cases rest with
  | nil => exact ⟨rfl, trivial, hunfailed, hannounced, fun _ => hheard, hreads⟩
  | cons command rest =>
    exact ⟨rfl, rfl, hunfailed, hannounced, fun _ => hheard, hreads⟩

/-- The rest of the subscriptions goes on to be sent. -/
theorem keeps_resubscribe (c : Client) (now : Nat) (rest : List Instrument)
    (hunfailed : r.failed = none) (hannounced : r.announced = [r.session])
    (hreads : r.Reads [] []) : r.Keeps (c.resubscribe now r.session rest).phase := by
  cases rest with
  | nil =>
    exact ⟨rfl, trivial, hunfailed, (List.append_nil _).trans hannounced, Link.noConfusion, hreads⟩
  | cons i rest =>
    have hproper : (c.resubscribe now r.session (i :: rest)).phase.Proper := rfl
    refine ⟨rfl, hproper, hunfailed, ?_, Link.noConfusion, hreads⟩
    rw [announcedIn_unwritten hproper rfl, List.append_nil]
    exact hannounced

/-- The rest of the payloads goes on to be handled, or the last one was, and the session breaks
down. -/
theorem keeps_process (c : Client) (now : Nat) (l : Listening) {rest : List (List Char)}
    (hunfailed : r.failed = none) (hannounced : r.announced = [r.session])
    (hreads : r.Reads rest l.pending) :
    r.Keeps (c.process now r.session l rest).phase ∨
      (c.process now r.session l rest).phase.link = .down ∧ r.Over := by
  have hannounced' : r.announced ++ [] = [r.session] := (List.append_nil _).trans hannounced
  cases rest with
  | nil =>
    unfold Client.process
    simp only
    split
    · exact .inl ⟨rfl, trivial, hunfailed, hannounced', Link.noConfusion, hreads⟩
    · obtain ⟨payloads, hread, hhandled⟩ := hreads.whole
      refine .inr ⟨rfl, .whole payloads _ hread hhandled, ?_, fun _ => hannounced⟩
      rw [hannounced]
  | cons payload rest =>
    unfold Client.process
    simp only
    split
    · rename_i hheartbeat
      exact .inl ⟨rfl, ⟨hheartbeat, rfl⟩, hunfailed, hannounced', Link.noConfusion, hreads⟩
    · rename_i hpayload
      exact .inl ⟨rfl, eq_false_of_ne_true hpayload, hunfailed, hannounced',
        Link.noConfusion, hreads⟩

end Reception

end CandleFeed

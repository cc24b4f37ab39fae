import CandleFeed.Proofs.Run
import CandleFeed.Proofs.Session.Frames
import CandleFeed.Proofs.Session.Moves

/-!
# What every connection is told

Next to a client, **`Watched`** keeps a **`Transcript`** of every connection: the list of
subscriptions that was taken for it, the changes made since, and what was written.  A run is any
number of steps and calls in any order.

* **`Transcript.Sound`**: what a connection was told is the beginning of its list and the changes.
* **`Watched.Linked`**: how far the latest transcript is, given how far its connection is: once the
  list is taken, what was written, what is being written and what is queued make up all of it.
* **`Watched.Steady`** holds both, of a new client and after every move (`Steady.move`).
* **`Watched.Faithful`**: so the provider is told of every change, in order, on every connection
  (`Steady.faithful`).  That is said of the frames that are written, as texts.
-/

namespace CandleFeed

open Outgoing SubscriptionChange

/-! ## Transcripts -/

/-- What a connection was told about the subscriptions. -/
structure Transcript where
  /-- The name of its session. -/
  session : String
  /-- The list of subscriptions, once it is taken. -/
  list : Option (List Instrument)
  /-- The changes that had an effect since. -/
  later : List SubscriptionChange
  /-- Everything that was written. -/
  written : List Outgoing

namespace Transcript

/-- A connection that stands. -/
def begin (session : String) : Transcript := ⟨session, none, [], []⟩

/-- The frames that change the subscriptions. -/
def frames (t : Transcript) : List Outgoing := changesIn t.written

/-- What the connection should be told: its list, and the changes after it. -/
def due (t : Transcript) : List SubscriptionChange :=
  match t.list with
  | some order => order.map .add ++ t.later
  | none => []

/-- The list is taken. -/
def take (t : Transcript) (order : List Instrument) : Transcript := { t with list := some order }

/-- A change is made; before the list is taken it will be part of that. -/
def note (t : Transcript) (change : SubscriptionChange) : Transcript :=
  if t.list.isSome then { t with later := t.later ++ [change] } else t

/-- Something is written. -/
def write (t : Transcript) (outgoing : List Outgoing) : Transcript :=
  { t with written := t.written ++ outgoing }

/-- What was told is the beginning of what should be, and that is changes each of which had an
effect. -/
structure Sound (t : Transcript) : Prop where
  told : t.frames <+: t.due.map (·.on t.session)
  made : ∃ r : Registry, r.MadeBy t.due

end Transcript

/-- A client, and the transcripts of its connections, the latest first. -/
structure Watched where
  client : Client
  transcripts : List Transcript

namespace Watched

/-- A client before it is started. -/
def start (settings : ClientSettings) : Watched := ⟨.new settings, []⟩

/-- The transcripts after a move that had the effects. -/
def transcribe (w : Watched) (effects : List Effect) : ClientMove → List Transcript
  | .step _ e =>
    match e.session? with
    | some session => .begin session :: w.transcripts
    | none =>
      w.transcripts.modifyHead fun t =>
        (if w.client.takesSubscriptions e then t.take w.client.registry.order else t).write
          (Effect.written effects)
  | .subscribe i =>
    if (w.client.subscribe i).2 then w.transcripts.modifyHead (·.note (.add i))
    else w.transcripts
  | .unsubscribe i =>
    if (w.client.unsubscribe i).2 then w.transcripts.modifyHead (·.note (.remove i))
    else w.transcripts
  | _ => w.transcripts

/-- A move, if it can happen. -/
def move (w : Watched) (m : ClientMove) : Option Watched :=
  (w.client.perform m).map fun (c, effects) => ⟨c, w.transcribe effects m⟩

/-- Moves one after another. -/
def run (w : Watched) (moves : List ClientMove) : Option Watched := moves.foldlM move w

/-- How far the latest transcript is when its connection has come so far. -/
def Linked (w : Watched) : Link → Prop
  | .down => True
  | .opening session =>
    (w.client.state = .connected ∨ w.client.state = .closed) ∧
      changesIn w.client.phase.unwritten = [] ∧
      ∃ t ∈ w.transcripts.head?, t.session = session ∧ t.list = none ∧ t.later = []
  | .up session =>
    ∃ t ∈ w.transcripts.head?, t.session = session ∧ t.list.isSome = true ∧
      -- a closed client queues no change any more
      ((w.client.state = .closed ∧
          t.frames ++ changesIn w.client.phase.unwritten ++ w.client.changes.map (·.on session) <+:
            t.due.map (·.on session)) ∨
        (w.client.state.sendsLive = true ∧
          t.frames ++ changesIn w.client.phase.unwritten ++ w.client.changes.map (·.on session) =
            t.due.map (·.on session)))

/-- What holds of a client and its transcripts at any time. -/
structure Steady (w : Watched) : Prop where
  /-- Every connection was told the beginning of what it should be. -/
  sound : ∀ t ∈ w.transcripts, t.Sound
  /-- The list and the changes of the latest make up the registry. -/
  made : ∀ t ∈ w.transcripts.head?, t.list.isSome = true → w.client.registry.MadeBy t.due
  linked : w.Linked w.client.phase.link

end Watched

namespace Transcript

/-- A connection that stands has been told nothing. -/
theorem sound_begin (session : String) : (begin session).Sound :=
  ⟨List.prefix_rfl, .empty, .empty⟩

@[simp] theorem frames_write (t : Transcript) (outgoing : List Outgoing) :
    (t.write outgoing).frames = t.frames ++ changesIn outgoing := changesIn_append _ _

/-- Before the list is taken nothing is to be told. -/
theorem due_of_list {t : Transcript} (h : t.list = none) : t.due = [] := by
  unfold due
  rw [h]

/-- Before the list is taken nothing has been told. -/
theorem Sound.frames_of_list {t : Transcript} (h : t.Sound) (hlist : t.list = none) :
    t.frames = [] := by
  have htold := h.told
  rw [due_of_list hlist, List.map_nil] at htold
  exact List.prefix_nil.mp htold

/-- A change that is made once the list is taken is to be told. -/
theorem due_note {t : Transcript} (h : t.list.isSome = true) (change : SubscriptionChange) :
    (t.note change).due = t.due ++ [change] := by
  obtain ⟨order, horder⟩ := Option.isSome_iff_exists.mp h
  unfold note
  rw [if_pos h]
  unfold due
  simp only [horder, List.append_assoc]

/-- A change that is made earlier is not. -/
theorem note_of_list {t : Transcript} (h : t.list = none) (change : SubscriptionChange) :
    t.note change = t := by
  unfold note
  rw [h, if_neg (by simp)]

/-- A change leaves the rest of a transcript as it is. -/
theorem note_fields (t : Transcript) (change : SubscriptionChange) :
    (t.note change).session = t.session ∧ (t.note change).list = t.list ∧
      (t.note change).frames = t.frames := by
  unfold note
  split <;> exact ⟨rfl, rfl, rfl⟩

end Transcript

namespace Watched

/-- Transcripts that are changed at their head only are sound if the head is. -/
theorem forall_mem_modifyHead {ts : List Transcript} {f : Transcript → Transcript}
    {p : Transcript → Prop} (h : ∀ t ∈ ts, p t) (hhead : ∀ t ∈ ts.head?, p (f t)) :
    ∀ t ∈ ts.modifyHead f, p t := by
  cases ts with
  | nil => exact h
  | cons t ts =>
    rw [List.modifyHead_cons, List.forall_mem_cons]
    exact ⟨hhead t rfl, fun t' ht' => h t' (List.mem_cons_of_mem _ ht')⟩

/-- The head of transcripts that are changed there. -/
theorem mem_head?_modifyHead {ts : List Transcript} {f : Transcript → Transcript} {t : Transcript} :
    t ∈ (ts.modifyHead f).head? ↔ ∃ t' ∈ ts.head?, f t' = t := by
  cases ts <;> simp

/-- A phase without a connection writes nothing. -/
theorem unwritten_of_down {p : Phase} (h : p.link = .down) : p.unwritten = [] := by
  cases p <;> try rfl
  rename_i next
  cases next <;> exact absurd h (by simp [Phase.link])

/-- What is being written continues what a connection was told. -/
theorem Steady.prefix_due {w : Watched} (h : w.Steady) {t : Transcript}
    (ht : t ∈ w.transcripts.head?) :
    t.frames ++ changesIn w.client.phase.unwritten <+: t.due.map (·.on t.session) := by
  have hsound := h.sound t (List.mem_of_mem_head? ht)
  have hlinked := h.linked
  cases hlink : w.client.phase.link with
  | down =>
    rw [unwritten_of_down hlink, changesIn_nil, List.append_nil]
    exact hsound.told
  | opening session =>
    rw [hlink] at hlinked
    rw [hlinked.2.1, List.append_nil]
    exact hsound.told
  | up session =>
    rw [hlink] at hlinked
    obtain ⟨t', ht', rfl, -, hall⟩ := hlinked
    obtain rfl : t = t' := Option.mem_unique ht ht'
    rcases hall with ⟨-, hall⟩ | ⟨-, hall⟩
    · exact (List.prefix_append _ _).trans hall
    · exact ⟨_, hall⟩

/-- A new client is steady. -/
theorem steady_start (settings : ClientSettings) : (start settings).Steady :=
  ⟨fun _ ht => absurd ht List.not_mem_nil, fun _ ht => absurd ht (by simp [start]), trivial⟩

/-! ## Steps of the session -/

/-- What is written is told in its turn: a client is steady after a write that continues what the
latest connection was told, given how far that is then. -/
theorem Steady.write {w : Watched} (h : w.Steady) {c : Client} {outgoing : List Outgoing}
    (hregistry : c.registry = w.client.registry)
    (hstarts : ∀ t ∈ w.transcripts.head?,
      t.frames ++ changesIn outgoing <+: t.due.map (·.on t.session))
    (hlinked : Linked ⟨c, w.transcripts.modifyHead (·.write outgoing)⟩ c.phase.link) :
    Steady ⟨c, w.transcripts.modifyHead (·.write outgoing)⟩ := by
  refine ⟨forall_mem_modifyHead h.sound fun t ht => ?_, fun t ht hlist => ?_, hlinked⟩
  · refine ⟨?_, (h.sound t (List.mem_of_mem_head? ht)).made⟩
    rw [Transcript.frames_write]
    exact hstarts t ht
  · obtain ⟨t', ht', rfl⟩ := mem_head?_modifyHead.mp ht
    change c.registry.MadeBy _
    rw [hregistry]
    exact h.made t' ht' hlist

/-- A new connection is steady. -/
theorem Steady.connects {w : Watched} (h : w.Steady) {c : Client} {session : String}
    (hlink : c.phase.link = .opening session) (hunwritten : changesIn c.phase.unwritten = [])
    (hstate : c.state = if w.client.state = .closed then .closed else .connected) :
    Steady ⟨c, .begin session :: w.transcripts⟩ := by
  refine ⟨List.forall_mem_cons.mpr ⟨Transcript.sound_begin session, h.sound⟩, ?_, ?_⟩
  · rintro t ⟨⟩ hlist
    exact absurd hlist (by simp [Transcript.begin])
  · rw [hlink]
    refine ⟨?_, hunwritten, _, rfl, rfl, rfl, rfl⟩
    split at hstate
    · exact Or.inr hstate
    · exact Or.inl hstate

/-- Opening a session stays steady. -/
theorem Steady.opens {w : Watched} (h : w.Steady) {c : Client} {session : String}
    {outgoing : List Outgoing} (hregistry : c.registry = w.client.registry)
    (hlink : w.client.phase.link = .opening session) (hlink' : c.phase.link = .opening session)
    (hwritten : outgoing ++ c.phase.unwritten = w.client.phase.unwritten)
    (hstate : c.state = w.client.state) :
    Steady ⟨c, w.transcripts.modifyHead (·.write outgoing)⟩ := by
  have hlinked := h.linked
  rw [hlink] at hlinked
  obtain ⟨hstates, hquiet, t, ht, hsession, hlist, hlater⟩ := hlinked
  rw [← hwritten, changesIn_append, List.append_eq_nil_iff] at hquiet
  refine h.write hregistry (fun t' ht' => ?_) ?_
  · rw [hquiet.1, List.append_nil]
    exact (h.sound t' (List.mem_of_mem_head? ht')).told
  · rw [hlink']
    exact ⟨hstate ▸ hstates, hquiet.2, _, mem_head?_modifyHead.mpr ⟨t, ht, rfl⟩, hsession, hlist,
      hlater⟩

/-- The list is taken of a steady client, and what was queued before is part of it. -/
theorem Steady.takes {w : Watched} (h : w.Steady) {c : Client} {session : String}
    (hregistry : c.registry = w.client.registry)
    (hlink : w.client.phase.link = .opening session) (hlink' : c.phase.link = .up session)
    (hunwritten : c.phase.unwritten =
      (w.client.registry.order.map SubscriptionChange.add).map (·.on session))
    (hchanges : c.changes = [])
    (hstate : c.state = if w.client.state = .closed then .closed else .resubscribing) :
    Steady ⟨c, w.transcripts.modifyHead fun t =>
      (t.take w.client.registry.order).write []⟩ := by
  have hlinked := h.linked
  rw [hlink] at hlinked
  obtain ⟨hstates, hquiet, t, ht, rfl, hlist, hlater⟩ := hlinked
  have hframes : ((t.take w.client.registry.order).write []).frames = [] := by
    rw [Transcript.frames_write, changesIn_nil, List.append_nil]
    exact (h.sound t (List.mem_of_mem_head? ht)).frames_of_list hlist
  have hdue : ((t.take w.client.registry.order).write []).due =
      w.client.registry.order.map .add := by
    change w.client.registry.order.map .add ++ t.later = _
    rw [hlater, List.append_nil]
  refine ⟨forall_mem_modifyHead h.sound fun t' ht' => ?_, fun t' ht' _ => ?_, ?_⟩
  · obtain rfl : t = t' := Option.some.inj (ht.symm.trans ht')
    refine ⟨?_, w.client.registry, ?_⟩
    · rw [hframes]
      exact List.nil_prefix
    · rw [hdue]
      exact w.client.registry.madeBy_adds
  · obtain ⟨t'', ht'', rfl⟩ := mem_head?_modifyHead.mp ht'
    obtain rfl : t = t'' := Option.mem_unique ht ht''
    change c.registry.MadeBy _
    rw [hregistry, hdue]
    exact w.client.registry.madeBy_adds
  · rw [hlink']
    refine ⟨_, mem_head?_modifyHead.mpr ⟨t, ht, rfl⟩, rfl, rfl, ?_⟩
    have hall : ((t.take w.client.registry.order).write []).frames ++
        changesIn c.phase.unwritten ++ c.changes.map (·.on t.session) =
          ((t.take w.client.registry.order).write []).due.map (·.on t.session) := by
      rw [hframes, hchanges, hunwritten, changesIn_map_on, hdue, List.map_nil, List.append_nil,
        List.nil_append]
    split at hstate
    · exact Or.inl ⟨hstate, hall ▸ List.prefix_rfl⟩
    · refine Or.inr ⟨?_, hall⟩
      change c.state.sendsLive = true
      rw [hstate]
      rfl

/-- A connection that has its list stays steady while it is told the rest. -/
theorem Steady.sends {w : Watched} (h : w.Steady) {c : Client} {session : String}
    {outgoing : List Outgoing} (hregistry : c.registry = w.client.registry)
    (hlink : w.client.phase.link = .up session) (hlink' : c.phase.link = .up session)
    (hwritten : changesIn outgoing ++ changesIn c.phase.unwritten ++ c.changes.map (·.on session) =
      changesIn w.client.phase.unwritten ++ w.client.changes.map (·.on session))
    (hstate : c.state = w.client.state ∨ w.client.state ≠ .closed ∧ c.state = .running) :
    Steady ⟨c, w.transcripts.modifyHead (·.write outgoing)⟩ := by
  have hlinked := h.linked
  rw [hlink] at hlinked
  obtain ⟨t, ht, rfl, hlist, hall⟩ := hlinked
  -- what is told, being told and queued is the same before and after
  have hsame : (t.write outgoing).frames ++ changesIn c.phase.unwritten ++
      c.changes.map (·.on t.session) =
        t.frames ++ changesIn w.client.phase.unwritten ++
          w.client.changes.map (·.on t.session) := by
    have hcons := congrArg (t.frames ++ ·) hwritten
    simpa only [Transcript.frames_write, List.append_assoc] using hcons
  have hstarts : (t.write outgoing).frames <+: t.due.map (·.on t.session) := by
    have hrest := List.prefix_append (t.write outgoing).frames
      (changesIn c.phase.unwritten ++ c.changes.map (·.on t.session))
    rw [← List.append_assoc, hsame] at hrest
    rcases hall with ⟨-, hall⟩ | ⟨-, hall⟩
    · exact hrest.trans hall
    · exact hall ▸ hrest
  refine h.write hregistry (fun t' ht' => ?_) ?_
  · obtain rfl : t = t' := Option.some.inj (ht.symm.trans ht')
    rw [← Transcript.frames_write]
    exact hstarts
  · rw [hlink']
    refine ⟨_, mem_head?_modifyHead.mpr ⟨t, ht, rfl⟩, rfl, hlist, ?_⟩
    rcases hall with ⟨hclosed, hall⟩ | ⟨hlive, hall⟩
    · have hclosed' : c.state = .closed :=
        (hstate.resolve_right fun hrunning => hrunning.1 hclosed).trans hclosed
      exact Or.inl ⟨hclosed', hsame ▸ hall⟩
    · refine Or.inr ⟨?_, hsame.trans hall⟩
      rcases hstate with hstate | ⟨-, hstate⟩
      · exact hstate ▸ hlive
      · exact hstate ▸ rfl

/-- **A step of the session keeps a client steady.** -/
theorem Steady.step {w : Watched} (h : w.Steady) {now : Nat} {e : Event} {c : Client}
    {effects : List Effect} (hstep : w.client.step now e = some (c, effects)) :
    Steady ⟨c, w.transcribe effects (.step now e)⟩ := by
  obtain ⟨hregistry, hturn⟩ := Client.step_turn hstep
  unfold transcribe
  cases hturn with
  | connects session hevent hlink' _ hunwritten _ hstate =>
    simp only [hevent]
    exact h.connects hlink' hunwritten hstate
  | opens session hevent htakes hlink hlink' hwritten _ hstate =>
    simp only [hevent, htakes]
    exact h.opens hregistry hlink hlink' hwritten hstate
  | takes session hevent htakes hlink hlink' hwritten hunwritten hchanges hstate =>
    simp only [hevent, htakes, hwritten]
    exact h.takes hregistry hlink hlink' hunwritten hchanges hstate
  | sends session hevent htakes hlink hlink' hwritten hstate =>
    simp only [hevent, htakes]
    exact h.sends hregistry hlink hlink' hwritten hstate
  | drops hevent htakes hlink' hwritten hstate =>
    simp only [hevent, htakes]
    refine h.write hregistry (fun t ht => ?_) (hlink' ▸ trivial)
    exact ((List.prefix_append_right_inj _).mpr hwritten).trans (h.prefix_due ht)

/-! ## Calls of the owner -/

/-- A change that has an effect is noted once the list is taken, and queued where the client sends
changes at once. -/
theorem Steady.change {w : Watched} (h : w.Steady) {r : Registry} {change : SubscriptionChange}
    (hmade : ∀ changes, w.client.registry.MadeBy changes → r.MadeBy (changes ++ [change])) :
    Steady ⟨{ w.client with registry := r }.queueChange change,
      w.transcripts.modifyHead (·.note change)⟩ := by
  have hqueue : ({ w.client with registry := r }.queueChange change).registry = r ∧
      ({ w.client with registry := r }.queueChange change).phase = w.client.phase ∧
      ({ w.client with registry := r }.queueChange change).state = w.client.state := by
    unfold Client.queueChange
    split <;> exact ⟨rfl, rfl, rfl⟩
  obtain ⟨hregistry, hphase, hstate⟩ := hqueue
  refine ⟨forall_mem_modifyHead h.sound fun t ht => ?_, fun t ht hlist => ?_, ?_⟩
  · have hsound := h.sound t (List.mem_of_mem_head? ht)
    cases hlist : t.list with
    | none =>
      rw [Transcript.note_of_list hlist]
      exact hsound
    | some order =>
      have hsome : t.list.isSome = true := Option.isSome_of_eq_some hlist
      obtain ⟨hsession, -, hframes⟩ := t.note_fields change
      refine ⟨?_, r, ?_⟩
      · rw [hframes, hsession, Transcript.due_note hsome, List.map_append]
        exact hsound.told.trans (List.prefix_append _ _)
      · rw [Transcript.due_note hsome]
        exact hmade _ (h.made t ht hsome)
  · obtain ⟨t', ht', rfl⟩ := mem_head?_modifyHead.mp ht
    rw [(t'.note_fields change).2.1] at hlist
    rw [Transcript.due_note hlist]
    rw [hregistry]
    exact hmade _ (h.made t' ht' hlist)
  · have hlinked := h.linked
    rw [hphase]
    cases hlink : w.client.phase.link with
    | down => trivial
    | opening session =>
      rw [hlink] at hlinked
      obtain ⟨hstates, hquiet, t, ht, hsession, hlist, hlater⟩ := hlinked
      refine ⟨hstate ▸ hstates, hphase ▸ hquiet, t, ?_, hsession, hlist, hlater⟩
      exact mem_head?_modifyHead.mpr ⟨t, ht, Transcript.note_of_list hlist change⟩
    | up session =>
      rw [hlink] at hlinked
      obtain ⟨t, ht, rfl, hlist, hall⟩ := hlinked
      obtain ⟨hsession, hlist', hframes⟩ := t.note_fields change
      refine ⟨_, mem_head?_modifyHead.mpr ⟨t, ht, rfl⟩, hsession, hlist' ▸ hlist, ?_⟩
      simp only [hstate, hphase, hframes, Transcript.due_note hlist, List.map_append]
      unfold Client.queueChange
      rcases hall with ⟨hclosed, hall⟩ | ⟨hlive, hall⟩
      · rw [if_neg (by rw [hclosed]; decide)]
        exact Or.inl ⟨hclosed, hall.trans (List.prefix_append _ _)⟩
      · rw [if_pos hlive, ← hall]
        refine Or.inr ⟨hlive, ?_⟩
        simp only [List.map_append, List.append_assoc]

/-- A subscription keeps a client steady. -/
theorem Steady.subscribe {w : Watched} (h : w.Steady) (i : Instrument) :
    Steady ⟨(w.client.subscribe i).1, w.transcribe [] (.subscribe i)⟩ := by
  unfold transcribe Client.subscribe
  by_cases hi : (w.client.registry.insert i).2 = true
  · simp only [hi, if_true]
    exact h.change fun changes hmade => hmade.insert hi
  · simp only [hi]
    exact h

/-- The end of a subscription keeps a client steady. -/
theorem Steady.unsubscribe {w : Watched} (h : w.Steady) (i : Instrument) :
    Steady ⟨(w.client.unsubscribe i).1, w.transcribe [] (.unsubscribe i)⟩ := by
  unfold transcribe Client.unsubscribe
  by_cases hi : (w.client.registry.remove i).2 = true
  · simp only [hi, if_true]
    exact h.change fun changes hmade => hmade.remove hi
  · simp only [hi]
    exact h

/-- A client that is started is steady: it has no connection. -/
theorem Steady.connect {w : Watched} (h : w.Steady) {c : Client}
    (hconnect : w.client.connect = .ok c) : Steady ⟨c, w.transcripts⟩ := by
  obtain ⟨-, -, rfl⟩ := Client.connect_eq_ok hconnect
  exact ⟨h.sound, h.made, trivial⟩

/-- Closing a client keeps it steady: it queues no change any more. -/
theorem Steady.close {w : Watched} (h : w.Steady) : Steady ⟨w.client.close, w.transcripts⟩ := by
  unfold Client.close Client.publish
  split
  · exact h
  · refine ⟨h.sound, h.made, ?_⟩
    have hlinked := h.linked
    change Linked _ w.client.phase.link
    cases hlink : w.client.phase.link with
    | down => trivial
    | opening session =>
      rw [hlink] at hlinked
      exact ⟨Or.inr rfl, hlinked.2⟩
    | up session =>
      rw [hlink] at hlinked
      obtain ⟨t, ht, hsession, hlist, hall⟩ := hlinked
      refine ⟨t, ht, hsession, hlist, Or.inl ⟨rfl, ?_⟩⟩
      rcases hall with ⟨-, hall⟩ | ⟨-, hall⟩
      · exact hall
      · exact hall ▸ List.prefix_rfl

/-- **A move keeps a client steady.** -/
theorem Steady.move {w w' : Watched} (h : w.Steady) {m : ClientMove} (hmove : w.move m = some w') :
    w'.Steady := by
  unfold Watched.move at hmove
  obtain ⟨⟨c, effects⟩, hperform, rfl⟩ := Option.map_eq_some_iff.mp hmove
  cases m with
  | step now e => exact h.step hperform
  | subscribe i =>
    cases hperform
    exact h.subscribe i
  | unsubscribe i =>
    cases hperform
    exact h.unsubscribe i
  | connect =>
    simp only [Client.perform] at hperform
    split at hperform
    · rename_i hconnect
      cases hperform
      exact h.connect hconnect
    · exact absurd hperform (by simp)
  | requestStop =>
    cases hperform
    exact ⟨h.sound, h.made, h.linked⟩
  | close =>
    cases hperform
    exact h.close

/-- **A client is steady at any time.** -/
theorem Steady.run {w w' : Watched} (h : w.Steady) {moves : List ClientMove}
    (hrun : w.run moves = some w') : w'.Steady := by
  apply foldlM_keeps _ h hrun
  intro m _ u u' hu hmove
  exact hu.move hmove

/-! ## The moment in which the list is taken -/

/-- A transcript that keeps to having no list has none taken for it. -/
theorem modifyHead_ne_take {t : Transcript} {ts old : List Transcript} {order : List Instrument}
    {f : Transcript → Transcript} (hts : ts = t :: old) (hlist : t.list = none)
    (hf : (f t).list = t.list) : ts.modifyHead f ≠ t.take order :: old := by
  intro h
  rw [hts, List.modifyHead_cons] at h
  have hsome : (f t).list = some order := congrArg Transcript.list (List.cons.inj h).1
  exact absurd ((hf.symm.trans hsome).symm.trans hlist) (by simp)

/-- **The list of a connection is the registry in the moment in which the state becomes
`resubscribing`.**  Only a client that is closed takes one in another state. -/
theorem Steady.step_resubscribing_iff {w : Watched} (h : w.Steady) {now : Nat} {e : Event}
    {c : Client} {effects : List Effect} (hstep : w.client.step now e = some (c, effects)) :
    (w.client.state ≠ .resubscribing ∧ c.state = .resubscribing) ↔
      w.client.state ≠ .closed ∧ ∃ t old, w.transcripts = t :: old ∧ t.list = none ∧
        w.transcribe effects (.step now e) = t.take w.client.registry.order :: old := by
  obtain ⟨-, hturn⟩ := Client.step_turn hstep
  unfold transcribe
  cases hturn with
  | connects session hevent _ _ _ _ hstate =>
    simp only [hevent]
    refine iff_of_false ?_ ?_
    · rintro ⟨-, hbecomes⟩
      split at hstate <;> exact absurd (hstate.symm.trans hbecomes) (by decide)
    · rintro ⟨-, t, old, -, -, htaken⟩
      have hsome := congrArg Transcript.list (List.cons.inj htaken).1
      exact absurd hsome (by simp [Transcript.begin, Transcript.take])
  | opens session hevent htakes _ _ _ _ hstate =>
    simp only [hevent, htakes]
    refine iff_of_false ?_ ?_
    · rintro ⟨hnot, hbecomes⟩
      exact hnot (hstate.symm.trans hbecomes)
    · rintro ⟨-, t, old, hts, hlist, htaken⟩
      exact modifyHead_ne_take hts hlist rfl htaken
  | takes session hevent htakes hlink _ hwritten _ _ hstate =>
    simp only [hevent, htakes, hwritten]
    have hlinked := h.linked
    rw [hlink] at hlinked
    obtain ⟨hstates, -, t, ht, -, hlist, -⟩ := hlinked
    constructor
    · rintro ⟨-, hbecomes⟩
      refine ⟨fun hclosed => ?_, t, w.transcripts.tail, List.eq_cons_of_mem_head? ht, hlist, ?_⟩
      · rw [if_pos hclosed] at hstate
        exact absurd (hstate.symm.trans hbecomes) (by decide)
      · rw [List.eq_cons_of_mem_head? ht, List.modifyHead_cons]
        simp only [if_true, Transcript.write, List.append_nil, List.tail_cons]
    · rintro ⟨hopen, -⟩
      rw [if_neg hopen] at hstate
      refine ⟨?_, hstate⟩
      rw [hstates.resolve_right hopen]
      decide
  | sends session hevent htakes _ _ _ hstate =>
    simp only [hevent, htakes]
    refine iff_of_false ?_ ?_
    · rintro ⟨hnot, hbecomes⟩
      rcases hstate with hstate | ⟨-, hstate⟩
      · exact hnot (hstate.symm.trans hbecomes)
      · exact absurd (hstate.symm.trans hbecomes) (by decide)
    · rintro ⟨-, t, old, hts, hlist, htaken⟩
      exact modifyHead_ne_take hts hlist rfl htaken
  | drops hevent htakes _ _ hstate =>
    simp only [hevent, htakes]
    refine iff_of_false ?_ ?_
    · rintro ⟨hnot, hbecomes⟩
      rcases hstate with hstate | hstate
      · exact hnot (hstate.symm.trans hbecomes)
      · exact hstate hbecomes
    · rintro ⟨-, t, old, hts, hlist, htaken⟩
      exact modifyHead_ne_take hts hlist rfl htaken

/-- A call of the owner takes no list. -/
theorem transcribe_ne_take {w : Watched} {m : ClientMove} {effects : List Effect}
    (hm : ∀ now e, m ≠ .step now e) {t : Transcript} {old : List Transcript}
    {order : List Instrument} (hts : w.transcripts = t :: old) (hlist : t.list = none) :
    w.transcribe effects m ≠ t.take order :: old := by
  have hsame : w.transcripts ≠ t.take order :: old := by
    intro h
    have hsome : t.list = some order :=
      congrArg Transcript.list (List.cons.inj (hts.symm.trans h)).1
    exact absurd (hlist.symm.trans hsome) (by simp)
  have hnote (change : SubscriptionChange) :
      w.transcripts.modifyHead (·.note change) ≠ t.take order :: old :=
    modifyHead_ne_take hts hlist (t.note_fields change).2.1
  unfold transcribe
  cases m with
  | step now e => exact absurd rfl (hm now e)
  | subscribe i =>
    simp only
    split
    · exact hnote _
    · exact hsame
  | unsubscribe i =>
    simp only
    split
    · exact hnote _
    · exact hsame
  | connect => exact hsame
  | requestStop => exact hsame
  | close => exact hsame

end Watched

/-! ## What is written -/

namespace Transcript

/-- The frames that change the subscriptions, as they were written. -/
def sent (t : Transcript) : List (List Char) := t.frames.map Outgoing.frame

/-- The frames that should be written: its list is added in its order, and the changes follow. -/
def expected (t : Transcript) : List (List Char) :=
  match t.list with
  | some order => order.map (addFrame t.session) ++ t.later.map (SubscriptionChange.frame t.session)
  | none => []

/-- What should be written are the frames of what the connection should be told. -/
theorem expected_eq (t : Transcript) :
    t.expected = t.due.map (SubscriptionChange.frame t.session) := by
  unfold expected due
  split
  · rw [List.map_append, List.map_map]
    rfl
  · rfl

/-- Of a sound transcript, the beginning of what should be written was written. -/
theorem Sound.sent_starts {t : Transcript} (h : t.Sound) : t.sent <+: t.expected := by
  rw [expected_eq, ← map_frame_on]
  exact h.told.map Outgoing.frame

/-- Of a sound transcript, what was written about an instrument is an addition, a removal, an
addition, and so on. -/
theorem Sound.sent_alternate {t : Transcript} (h : t.Sound) (i : Instrument) :
    FramesAlternate t.session i t.sent := by
  obtain ⟨r, hr⟩ := h.made
  obtain ⟨told, hstarts, hsent⟩ := List.prefix_map_iff.mp (t.expected_eq ▸ h.sent_starts)
  rw [hsent]
  exact framesAlternate_map ((hr.alternate i).of_start hstarts) t.session

end Transcript

namespace Watched

/-- **What is written on every connection**, at one moment. -/
structure Faithful (w : Watched) : Prop where
  /-- What was written on a connection is the beginning of its list and the changes after it, in
  their order, and alternates for each instrument. -/
  told : ∀ t ∈ w.transcripts,
    t.sent <+: t.expected ∧ ∀ i, FramesAlternate t.session i t.sent
  /-- The list is the registry in the moment in which the state becomes `resubscribing`. -/
  taken : ∀ m w', w.move m = some w' →
    ((w.client.state ≠ .resubscribing ∧ w'.client.state = .resubscribing) ↔
      w.client.state ≠ .closed ∧ ∃ t old, w.transcripts = t :: old ∧ t.list = none ∧
        w'.transcripts = t.take w.client.registry.order :: old)
  /-- Until a connection that has its list fails or the client is closed, what was written, what is
  being written and what is queued are all that should be written. -/
  kept : ∀ session, w.client.phase.link = .up session → w.client.state ≠ .closed →
    ∃ t ∈ w.transcripts.head?, t.session = session ∧
      t.sent ++ (changesIn w.client.phase.unwritten).map Outgoing.frame ++
          w.client.changes.map (SubscriptionChange.frame session) =
        t.expected
  /-- When the session listens and nothing is queued, all of it was written, and the instruments that
  these frames added and did not remove since are the registry. -/
  settled : ∀ session l, w.client.phase = .listening session l → w.client.state = .running →
    w.client.changes = [] → ∃ t ∈ w.transcripts.head?, t.session = session ∧
      t.sent = t.expected ∧ ∀ i, FramesStand session i t.sent ↔ i ∈ w.client.registry.order

/-- The texts that a steady client keeps of an open connection are all that should be written. -/
theorem Steady.kept {w : Watched} (h : w.Steady) {session : String}
    (hlink : w.client.phase.link = .up session) (hopen : w.client.state ≠ .closed) :
    ∃ t ∈ w.transcripts.head?, t.session = session ∧ t.list.isSome = true ∧
      t.sent ++ (changesIn w.client.phase.unwritten).map Outgoing.frame ++
          w.client.changes.map (SubscriptionChange.frame session) =
        t.expected := by
  have hlinked := h.linked
  rw [hlink] at hlinked
  obtain ⟨t, ht, rfl, hlist, hall⟩ := hlinked
  rcases hall with ⟨hclosed, -⟩ | ⟨-, hall⟩
  · exact absurd hclosed hopen
  · refine ⟨t, ht, rfl, hlist, ?_⟩
    have htexts := congrArg (List.map Outgoing.frame) hall
    rw [List.map_append, List.map_append, map_frame_on, map_frame_on, ← t.expected_eq] at htexts
    exact htexts

/-- A steady client writes on every connection what it should. -/
theorem Steady.faithful {w : Watched} (h : w.Steady) : w.Faithful := by
  refine ⟨fun t ht => ⟨(h.sound t ht).sent_starts, (h.sound t ht).sent_alternate⟩, ?_, ?_, ?_⟩
  · intro m w' hmove
    unfold Watched.move at hmove
    obtain ⟨⟨c, effects⟩, hperform, rfl⟩ := Option.map_eq_some_iff.mp hmove
    by_cases hm : ∃ now e, m = .step now e
    · obtain ⟨now, e, rfl⟩ := hm
      exact h.step_resubscribing_iff hperform
    · have hcall : ∀ now e, m ≠ .step now e := fun now e heq => hm ⟨now, e, heq⟩
      refine iff_of_false ?_ ?_
      · rintro ⟨hnot, hbecomes⟩
        rcases Client.perform_call_state hcall hperform with hsame | hclosed
        · exact hnot (hsame.symm.trans hbecomes)
        · exact absurd (hclosed.symm.trans hbecomes) (by decide)
      · rintro ⟨-, t, old, hts, hlist, htaken⟩
        exact transcribe_ne_take hcall hts hlist htaken
  · intro session hlink hopen
    obtain ⟨t, ht, hsession, -, hall⟩ := h.kept hlink hopen
    exact ⟨t, ht, hsession, hall⟩
  · intro session l hphase hrunning hqueue
    have hlink : w.client.phase.link = .up session := by
      rw [hphase]
      rfl
    obtain ⟨t, ht, rfl, hlist, hall⟩ := h.kept hlink (by rw [hrunning]; decide)
    have hsent : t.sent = t.expected := by
      rw [hphase, hqueue, List.map_nil, List.append_nil] at hall
      exact (List.append_nil _).symm.trans hall
    refine ⟨t, ht, rfl, hsent, fun i => ?_⟩
    rw [hsent, t.expected_eq, framesStand_map_iff]
    exact (h.made t ht hlist).stands_iff i

/-- **Every connection is told of the subscriptions faithfully**, whatever happens to it and
whenever they change. -/
theorem run_faithful {settings : ClientSettings} {moves : List ClientMove} {w : Watched}
    (h : (start settings).run moves = some w) : w.Faithful :=
  ((steady_start settings).run h).faithful

/-- A run over two connections.  The first fails while a change is being written, and another change
comes before it is closed; the second takes the list with both.  A change that comes while the list
is being sent follows it, and so does one that comes later. -/
def reconnectingMoves (i j : Instrument) : List ClientMove :=
  let later := 2 * Clock.second
  [.connect, .step 0 .goOn, .subscribe i, .step 1 (.dialed "one"), .step 2 .written,
    .step 3 .written, .step 4 .goOn, .step 5 .written, .step 6 .goOn, .subscribe j,
    .step 7 .change, .step 8 .writeFailed, .unsubscribe i, .step 9 .closed, .step later .timeUp,
    .step later (.dialed "two"), .step later .written, .step later .written, .step later .goOn,
    .subscribe i, .step later .written, .step later .goOn, .step later .change,
    .step later .written, .unsubscribe j, .step later .change, .step later .written]

/-- The first connection was told of one change, the second of three, of which the last is a removal,
and nothing is left to send. -/
theorem run_faithful_reconnectingMoves : ∃ i j w, i.symbol = "AAPL" ∧ j.symbol = "MSFT" ∧
    (start ⟨none, ["lp"], 30 * Clock.second, 60 * Clock.second, .standard⟩).run
        (reconnectingMoves i j) = some w ∧
      w.transcripts.map (fun t => (t.session, t.sent.map Command.summary)) =
        [("two", [("quote_add_symbols", "NASDAQ:MSFT"), ("quote_add_symbols", "NASDAQ:AAPL"),
            ("quote_remove_symbols", "NASDAQ:MSFT")]),
          ("one", [("quote_add_symbols", "NASDAQ:AAPL")])] ∧
      w.client.state = .running ∧ w.client.changes = [] ∧ w.Faithful := by
  let aapl : Instrument := ⟨"NASDAQ", "AAPL", by decide, by decide, by decide⟩
  let msft : Instrument := ⟨"NASDAQ", "MSFT", by decide, by decide, by decide⟩
  have h : ((start ⟨none, ["lp"], 30 * Clock.second, 60 * Clock.second, .standard⟩).run
      (reconnectingMoves aapl msft)).map (fun w =>
        (w.transcripts.map (fun t => (t.session, t.sent.map Command.summary)),
          w.client.state, w.client.changes)) =
      some ([("two", [("quote_add_symbols", "NASDAQ:MSFT"), ("quote_add_symbols", "NASDAQ:AAPL"),
            ("quote_remove_symbols", "NASDAQ:MSFT")]),
          ("one", [("quote_add_symbols", "NASDAQ:AAPL")])], .running, []) := by decide +kernel
  obtain ⟨w, hrun, hseen⟩ := Option.map_eq_some_iff.mp h
  simp only [Prod.mk.injEq] at hseen
  exact ⟨aapl, msft, w, rfl, rfl, hrun, hseen.1, hseen.2.1, hseen.2.2, run_faithful hrun⟩

end Watched

end CandleFeed

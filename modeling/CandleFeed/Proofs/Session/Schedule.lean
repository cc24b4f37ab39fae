import CandleFeed.Proofs.Run
import CandleFeed.Proofs.Session.Backoff
import CandleFeed.Proofs.Session.Progress

/-!
# The schedule of attempts

A **`Journal`** is a client with the marks that an onlooker has noted of it, the latest first.  How
long a wait is to be depends on the failures since the connection last counted as stable, or since
the start (**`Mark.failuresSince`**).

**`Mark.Fits`** says which mark may follow which, and with which times.  A client is
**`Journal.Paced`** if its marks fit and it stands where they say that it does; every move keeps it
so (`Paced.move`).  **`Mark.Scheduled`** is what follows for a whole journal: how long each wait is,
what it follows, and what follows it.  `run_scheduled` says it of every run.

A connection that is in the middle of a write, or of handing a payload over, when it has run for
long enough does not begin to count as stable before that is done.  If the write fails it never
does, and the count of failures is not begun anew (**`Journal.run_outlivesUnsettled`**).
-/

namespace CandleFeed

open Client (mostFailures)

namespace Mark

/-- How many attempts have failed since the connection last began to count as stable; the latest
mark comes first. -/
def failuresSince : List Mark → Nat
  | [] => 0
  | settled _ :: _ => 0
  | failed _ _ :: earlier => failuresSince earlier + 1
  | _ :: earlier => failuresSince earlier

/-- **Which mark may follow which**: one may follow earlier ones, the latest of which comes
first. -/
inductive Fits (settings : ClientSettings) : Mark → List Mark → Prop
  | first : Fits settings dialed []
  | again (now : Nat) (earlier : List Mark) :
      Fits settings dialed (counted :: woke now false :: earlier)
  | runs (now : Nat) (earlier : List Mark) : Fits settings (ran now) (dialed :: earlier)
  | settles {start now : Nat} (h : Clock.wakeUp start settings.stabilityWindow ≤ now)
      (earlier : List Mark) : Fits settings (settled now) (ran start :: earlier)
  | failsOpening {failing : Failing} (h : ∀ overdue, failing ≠ .listening overdue) (now : Nat)
      (earlier : List Mark) : Fits settings (failed failing now) (dialed :: earlier)
  | failsRunning {failing : Failing} {start now : Nat}
      (h : failing = .listening false → now < Clock.wakeUp start settings.stabilityWindow)
      (earlier : List Mark) : Fits settings (failed failing now) (ran start :: earlier)
  | failsSettled (failing : Failing) (start now : Nat) (earlier : List Mark) :
      Fits settings (failed failing now) (settled start :: earlier)
  | waits (failing : Failing) (past now : Nat) (earlier : List Mark) :
      Fits settings
        (waits now (Clock.wakeUp now (settings.backoff.delay (failuresSince earlier))))
        (failed failing past :: earlier)
  | wakes {start deadline now : Nat} (h : deadline ≤ now) (stopping : Bool) (earlier : List Mark) :
      Fits settings (woke now stopping) (waits start deadline :: earlier)
  | counts (now : Nat) (stopping : Bool) (earlier : List Mark) :
      Fits settings counted (woke now stopping :: earlier)

/-- Each of the marks fits those before it. -/
inductive Kept (settings : ClientSettings) : List Mark → Prop
  | nil : Kept settings []
  | cons {m : Mark} {earlier : List Mark} (hkept : Kept settings earlier)
      (hfits : Fits settings m earlier) : Kept settings (m :: earlier)

/-- Nothing is left to be noted of the step that noted the latest mark. -/
def Whole : List Mark → Prop
  | woke _ _ :: _ => False
  | counted :: woke _ false :: _ => False
  | _ => True

/-- A number of failures is as large as the failures noted, as far as these are told apart. -/
def Counts (failures : Nat) (marks : List Mark) : Prop :=
  failures = min (failuresSince marks) mostFailures

/-- **What the marks say of where the schedule stands.**  A failure is counted only when the client
begins to wait. -/
def Agrees (settings : ClientSettings) (failures : Nat) : Progress → List Mark → Prop
  | .before, marks => marks = [] ∧ failures = 0
  | .opening, marks => ∃ earlier, marks = dialed :: earlier ∧ Counts failures marks
  | .running (some deadline), marks => ∃ start earlier, marks = ran start :: earlier ∧
      deadline = Clock.wakeUp start settings.stabilityWindow ∧ Counts failures marks
  | .running none, marks => ∃ start earlier, marks = settled start :: earlier ∧
      Counts failures marks
  | .retrying, marks => ∃ failing now earlier, marks = failed failing now :: earlier ∧
      Counts failures earlier
  | .waiting deadline, marks => ∃ start earlier, marks = waits start deadline :: earlier ∧
      Counts failures marks
  | .over, _ => True

/-- Marks that fit, and that say where the schedule stands. -/
structure Tells (settings : ClientSettings) (failures : Nat) (progress : Progress)
    (marks : List Mark) : Prop where
  kept : Kept settings marks
  whole : Whole marks
  agrees : Agrees settings failures progress marks

variable {settings : ClientSettings} {failures : Nat} {marks : List Mark}

/-- What is told of the failures is told of the waits. -/
theorem Counts.delay (h : Counts failures marks) (b : Backoff) :
    b.delay failures = b.delay (failuresSince marks) := by
  rw [h, Backoff.delay_min_of_le b (by decide)]

/-- One more failure. -/
theorem Counts.succ (h : Counts failures marks) (failing : Failing) (now : Nat) :
    Counts (min (failures + 1) mostFailures) (failed failing now :: marks) := by
  unfold Counts at h ⊢
  rw [h, failuresSince]
  omega

/-- When there are no more attempts, nothing else is told. -/
theorem Tells.ends {progress : Progress} (h : Tells settings failures progress marks)
    (failures' : Nat) : Tells settings failures' .over marks := ⟨h.kept, h.whole, trivial⟩

/-- The attempt is given up while it is being made. -/
theorem Tells.failsOpening (h : Tells settings failures .opening marks) {failing : Failing}
    (hopening : ∀ overdue, failing ≠ .listening overdue) (now : Nat) :
    Tells settings failures .retrying (failed failing now :: marks) := by
  obtain ⟨hkept, -, earlier, rfl, hcounts⟩ := h
  exact ⟨hkept.cons (.failsOpening hopening now earlier), trivial, failing, now, _, rfl, hcounts⟩

/-- The attempt is given up while its session runs. -/
theorem Tells.failsRunning {stability : Option Nat}
    (h : Tells settings failures (.running stability) marks) {failing : Failing} {now : Nat}
    (hearly : failing = .listening false → ∀ deadline, stability = some deadline → now < deadline) :
    Tells settings failures .retrying (failed failing now :: marks) := by
  obtain ⟨hkept, -, hagrees⟩ := h
  cases stability with
  | none =>
    obtain ⟨start, earlier, rfl, hcounts⟩ := hagrees
    exact ⟨hkept.cons (.failsSettled failing start now earlier), trivial, failing, now, _, rfl,
      hcounts⟩
  | some deadline =>
    obtain ⟨start, earlier, rfl, rfl, hcounts⟩ := hagrees
    exact ⟨hkept.cons (.failsRunning (fun hlistening => hearly hlistening _ rfl) earlier), trivial,
      failing, now, _, rfl, hcounts⟩

end Mark

/-- A client, and what has been noted of it, the latest mark first. -/
structure Journal where
  client : Client
  marks : List Mark

namespace Journal

open Mark

/-- A client that nobody has called. -/
def start (settings : ClientSettings) : Journal := ⟨.new settings, []⟩

/-- The marks after a move to a client with effects.  The calls of the owner leave none. -/
def note (w : Journal) (c : Client) (effects : List Effect) : ClientMove → List Mark
  | .step now e => w.client.noted now e c effects ++ w.marks
  | _ => w.marks

/-- A move, if it can happen. -/
def move (w : Journal) (m : ClientMove) : Option Journal :=
  (w.client.perform m).map fun (c, effects) => ⟨c, w.note c effects m⟩

/-- Moves one after another. -/
def run (w : Journal) (moves : List ClientMove) : Option Journal := moves.foldlM move w

/-- **A client that keeps to the schedule of its settings.** -/
structure Paced (settings : ClientSettings) (w : Journal) : Prop where
  orderly : w.client.Orderly
  settings_eq : w.client.settings = settings
  tells : Tells settings w.client.failures w.client.phase.progress w.marks

variable {settings : ClientSettings} {w w' : Journal} {c : Client} {marks : List Mark}

theorem paced_start (settings : ClientSettings) : Paced settings (start settings) :=
  ⟨Client.orderly_new settings, rfl, .nil, trivial, rfl, rfl⟩

/-! ## Moves -/

/-- A client whose attempt has failed waits as long as the schedule says. -/
theorem tells_rests {c c' : Client} {now : Nat} (hsettings : c.settings = settings)
    (h : Tells settings c.failures .retrying marks) {more : List Mark}
    (hrests : c.Rests now c' more) :
    Tells settings c'.failures c'.phase.progress (more ++ marks) := by
  cases hrests with
  | ends hto =>
    rw [hto]
    exact h.ends _
  | waits hto hdeadline hfailures =>
    obtain ⟨hkept, -, failing, past, earlier, rfl, hcounts⟩ := h
    rw [hsettings, hcounts.delay] at hdeadline
    rw [hto, hfailures]
    subst hdeadline
    exact ⟨hkept.cons (.waits failing past now earlier), trivial, now, _, rfl,
      hcounts.succ failing past⟩

/-- **A step keeps to the schedule.** -/
theorem Paced.tells_advance (h : Paced settings w) {now : Nat} {more : List Mark}
    (hadvance : w.client.Advance now c more) :
    Tells settings c.failures c.phase.progress (more ++ w.marks) := by
  have htells := h.tells
  cases hadvance with
  | stays hto hfailures =>
    rw [hto, hfailures]
    exact htells
  | ends hto =>
    rw [hto]
    exact htells.ends _
  | dials hfrom hto hfailures =>
    rw [hfrom] at htells
    obtain ⟨hkept, -, hmarks, hzero⟩ := htells
    rw [hto, hfailures, hmarks]
    exact ⟨Kept.nil.cons .first, trivial, [], rfl, hzero⟩
  | runs hfrom hto hfailures =>
    rw [hfrom] at htells
    obtain ⟨hkept, -, earlier, hmarks, hcounts⟩ := htells
    rw [hto, hfailures, h.settings_eq, hmarks]
    rw [hmarks] at hkept hcounts
    exact ⟨hkept.cons (.runs now earlier), trivial, now, _, rfl, rfl, hcounts⟩
  | settles hfrom hdue hto hfailures =>
    rw [hfrom] at htells
    obtain ⟨hkept, -, start, earlier, hmarks, rfl, -⟩ := htells
    rw [hto, hfailures, hmarks]
    rw [hmarks] at hkept
    exact ⟨hkept.cons (.settles hdue earlier), trivial, now, _, rfl, rfl⟩
  | refused hfrom hrests =>
    rw [hfrom] at htells
    have hdialing : ∀ overdue, Failing.dialing ≠ .listening overdue := fun _ => nofun
    rw [List.append_assoc]
    exact tells_rests h.settings_eq (htells.failsOpening hdialing now) hrests
  | stuck hfrom hto hfailures =>
    rw [hto, hfailures]
    obtain hfrom | ⟨stability, hfrom⟩ := hfrom
    · have hwriting : ∀ overdue, Failing.writing ≠ .listening overdue := fun _ => nofun
      rw [hfrom] at htells
      exact htells.failsOpening hwriting now
    · rw [hfrom] at htells
      exact htells.failsRunning nofun
  | fails hfrom hearly hto hfailures =>
    rw [hfrom] at htells
    rw [hto, hfailures]
    exact htells.failsRunning fun hlistening => hearly (Failing.listening.inj hlistening)
  | rests hfrom hrests =>
    rw [hfrom] at htells
    exact tells_rests h.settings_eq htells hrests
  | wakesLast hfrom hdue hto =>
    rw [hfrom] at htells
    obtain ⟨hkept, -, start, earlier, hmarks, -⟩ := htells
    rw [hto, hmarks]
    rw [hmarks] at hkept
    have hwoke := hkept.cons (.wakes hdue true earlier)
    exact ⟨hwoke.cons (.counts now true _), trivial, trivial⟩
  | wakes hfrom hdue hto hfailures =>
    rw [hfrom] at htells
    obtain ⟨hkept, -, start, earlier, hmarks, hcounts⟩ := htells
    rw [hto, hfailures, hmarks]
    rw [hmarks] at hkept hcounts
    have hwoke := hkept.cons (.wakes hdue false earlier)
    exact ⟨(hwoke.cons (.counts now false _)).cons (.again now _), trivial, _, rfl, hcounts⟩

/-- **A move keeps to the schedule.** -/
theorem Paced.move (h : Paced settings w) {m : ClientMove} (hmove : w.move m = some w') :
    Paced settings w' := by
  unfold Journal.move at hmove
  obtain ⟨⟨c, effects⟩, hperform, rfl⟩ := Option.map_eq_some_iff.mp hmove
  have horderly : c.Orderly := h.orderly.perform hperform
  by_cases hstep : ∃ now e, m = .step now e
  · obtain ⟨now, e, rfl⟩ := hstep
    obtain ⟨hsettings, hadvance⟩ := Client.step_advance hperform
    exact ⟨horderly, hsettings.trans h.settings_eq, h.tells_advance hadvance⟩
  · have hcall : ∀ now e, m ≠ .step now e := fun now e hm => hstep ⟨now, e, hm⟩
    obtain ⟨hprogress, hfailures, hsettings⟩ := Client.call_progress h.orderly hcall hperform
    have hnote : w.note c effects m = w.marks := by
      cases m with
      | step now e => exact absurd rfl (hcall now e)
      | _ => rfl
    have htells : Tells settings c.failures c.phase.progress (w.note c effects m) := by
      rw [hnote, hprogress, hfailures]
      exact h.tells
    exact ⟨horderly, hsettings.trans h.settings_eq, htells⟩

/-- **A client keeps to the schedule at any time.** -/
theorem Paced.run (h : Paced settings w) {moves : List ClientMove} (hrun : w.run moves = some w') :
    Paced settings w' := by
  apply foldlM_keeps _ h hrun
  intro m _ u u' hu hmove
  exact hu.move hmove

end Journal

/-! ## The schedule -/

namespace Mark

variable {settings : ClientSettings} {marks later earlier : List Mark} {m : Mark}

/-- What fits goes on to fit without later marks. -/
theorem Kept.of_append (h : Kept settings (later ++ earlier)) : Kept settings earlier := by
  induction later with
  | nil => exact h
  | cons m later ih =>
    cases h with
    | cons hkept _ => exact ih hkept

/-- A mark is the latest, or one that fits comes next. -/
theorem Kept.next (h : Kept settings (later ++ m :: earlier)) :
    later = [] ∨ ∃ rest m', later = rest ++ [m'] ∧ Fits settings m' (m :: earlier) := by
  rcases List.eq_nil_or_concat later with rfl | ⟨rest, m', rfl⟩
  · exact Or.inl rfl
  · rw [List.concat_eq_append, List.append_assoc] at h
    cases h.of_append with
    | cons _ hfits => exact Or.inr ⟨rest, m', List.concat_eq_append, hfits⟩

/-- **How the marks of an attempt go that fails**, on top of those from before it: its session has
not run; it has, and the connection has not begun to count as stable; or that has happened too. -/
inductive Attempt (settings : ClientSettings) (failing : Failing) (now : Nat)
    (before : List Mark) : List Mark → Prop
  /-- The failures before it are still those that count. -/
  | opening (hopening : ∀ overdue, failing ≠ .listening overdue)
      (hcount : failuresSince (dialed :: before) = failuresSince before) :
      Attempt settings failing now before (dialed :: before)
  /-- They are here too, and the connection failed before it had run for long enough, unless it was
  overdue to count as stable or the failure was that of a write. -/
  | running {start : Nat}
      (hearly : failing = .listening false → now < Clock.wakeUp start settings.stabilityWindow)
      (hcount : failuresSince (ran start :: dialed :: before) = failuresSince before) :
      Attempt settings failing now before (ran start :: dialed :: before)
  /-- It had run for long enough, and no failure before it counts any more. -/
  | settled {start settledAt : Nat}
      (hlong : Clock.wakeUp start settings.stabilityWindow ≤ settledAt)
      (hcount : failuresSince (settled settledAt :: ran start :: dialed :: before) = 0) :
      Attempt settings failing now before (settled settledAt :: ran start :: dialed :: before)

/-- **Marks that keep to the schedule**, the latest first. -/
structure Scheduled (settings : ClientSettings) (marks : List Mark) : Prop where
  /-- A wait follows a failure, and is as long as the failures that count before it make it. -/
  waits : ∀ later start deadline earlier, marks = later ++ .waits start deadline :: earlier →
    ∃ failing now before, earlier = failed failing now :: before ∧
      deadline = Clock.wakeUp start (settings.backoff.delay (failuresSince before))
  /-- A failure is followed by a wait, or by nothing. -/
  fails : ∀ later failing now earlier, marks = later ++ failed failing now :: earlier →
    later = [] ∨ ∃ rest start deadline, later = rest ++ [.waits start deadline]
  attempts : ∀ later failing now earlier, marks = later ++ failed failing now :: earlier →
    ∃ before, Attempt settings failing now before earlier
  /-- A wait that has run to its end is followed by one count and, unless a stop has been requested
  by then, by one dial; if it has, by nothing else. -/
  wakes : ∀ later now stopping earlier, marks = later ++ woke now stopping :: earlier →
    (∃ start deadline before, earlier = .waits start deadline :: before ∧ deadline ≤ now) ∧
      if stopping then later = [counted] else ∃ rest, later = rest ++ [dialed, counted]
  /-- Nothing is counted but the end of a wait. -/
  counts : ∀ later earlier, marks = later ++ counted :: earlier →
    ∃ now stopping before, earlier = woke now stopping :: before
  /-- The first dial comes first, and any other is another attempt after one that failed; one more
  failure counts then. -/
  dials : ∀ later earlier, marks = later ++ dialed :: earlier →
    earlier = [] ∨ ∃ now start deadline failing past before,
      earlier = counted :: woke now false :: .waits start deadline ::
          failed failing past :: before ∧
        failuresSince earlier = failuresSince before + 1

theorem kept_cons_iff : Kept settings (m :: earlier) ↔
    Kept settings earlier ∧ Fits settings m earlier := by
  refine ⟨fun h => ?_, fun ⟨hkept, hfits⟩ => hkept.cons hfits⟩
  cases h with
  | cons hkept hfits => exact ⟨hkept, hfits⟩

/-- The marks of a failed attempt. -/
theorem Kept.attempt {failing : Failing} {now : Nat}
    (h : Kept settings (failed failing now :: earlier)) :
    ∃ before, Attempt settings failing now before earlier := by
  obtain ⟨hkept, hfails⟩ := kept_cons_iff.mp h
  cases hfails with
  | failsOpening hopening _ before => exact ⟨before, .opening hopening rfl⟩
  | failsRunning hearly _ =>
    obtain ⟨-, hran⟩ := kept_cons_iff.mp hkept
    cases hran with
    | runs _ before => exact ⟨before, .running hearly rfl⟩
  | failsSettled _ _ _ _ =>
    obtain ⟨hkept, hsettled⟩ := kept_cons_iff.mp hkept
    cases hsettled with
    | settles hlong _ =>
      obtain ⟨-, hran⟩ := kept_cons_iff.mp hkept
      cases hran with
      | runs _ before => exact ⟨before, .settled hlong rfl⟩

/-- The marks before a dial. -/
theorem Kept.dial (h : Kept settings (dialed :: earlier)) :
    earlier = [] ∨ ∃ now start deadline failing past before,
      earlier = counted :: woke now false :: .waits start deadline ::
          failed failing past :: before ∧
        failuresSince earlier = failuresSince before + 1 := by
  obtain ⟨hkept, hdialed⟩ := kept_cons_iff.mp h
  cases hdialed with
  | first => exact Or.inl rfl
  | again now _ =>
    obtain ⟨hkept, -⟩ := kept_cons_iff.mp hkept
    obtain ⟨hkept, hwoke⟩ := kept_cons_iff.mp hkept
    cases hwoke with
    | wakes _ _ _ =>
      obtain ⟨-, hwaits⟩ := kept_cons_iff.mp hkept
      cases hwaits with
      | waits failing past start before => exact Or.inr ⟨_, _, _, _, _, _, rfl, rfl⟩

/-- The marks after the end of a wait. -/
theorem Kept.wake {now : Nat} {stopping : Bool}
    (h : Kept settings (later ++ woke now stopping :: earlier))
    (hwhole : Whole (later ++ woke now stopping :: earlier)) :
    if stopping then later = [counted] else ∃ rest, later = rest ++ [dialed, counted] := by
  obtain rfl | ⟨rest, m, rfl, hfits⟩ := h.next
  · exact False.elim hwhole
  cases hfits with
  | counts _ _ _ =>
    rw [List.append_assoc, List.singleton_append] at h hwhole
    obtain rfl | ⟨rest, m, rfl, hfits⟩ := h.next
    · cases stopping with
      | true => rfl
      | false => exact False.elim hwhole
    · cases hfits with
      | again _ _ => exact ⟨rest, List.append_assoc _ _ _⟩

/-- **Marks that fit keep to the schedule.** -/
theorem Kept.scheduled (h : Kept settings marks) (hwhole : Whole marks) :
    Scheduled settings marks := by
  have hfits : ∀ {later m earlier}, marks = later ++ m :: earlier → Fits settings m earlier :=
    fun hmarks => (kept_cons_iff.mp (hmarks ▸ h).of_append).2
  exact {
    waits := by
      intro later start deadline earlier hmarks
      cases hfits hmarks with
      | waits failing past _ before => exact ⟨failing, past, before, rfl, rfl⟩
    fails := by
      intro later failing now earlier hmarks
      obtain rfl | ⟨rest, m, rfl, hnext⟩ := (hmarks ▸ h).next
      · exact Or.inl rfl
      · cases hnext with
        | waits _ _ start _ => exact Or.inr ⟨rest, start, _, rfl⟩
    attempts := by
      intro later failing now earlier hmarks
      exact (hmarks ▸ h).of_append.attempt
    wakes := by
      intro later now stopping earlier hmarks
      refine ⟨?_, (hmarks ▸ h).wake (hmarks ▸ hwhole)⟩
      cases hfits hmarks with
      | wakes hdue _ before => exact ⟨_, _, before, rfl, hdue⟩
    counts := by
      intro later earlier hmarks
      cases hfits hmarks with
      | counts now stopping before => exact ⟨now, stopping, before, rfl⟩
    dials := by
      intro later earlier hmarks
      exact (hmarks ▸ h).of_append.dial }

end Mark

namespace Journal

/-- **Every client keeps to the schedule**, whatever its sessions fail in and whenever its owner
calls. -/
theorem run_scheduled {settings : ClientSettings} {moves : List ClientMove} {w : Journal}
    (h : (start settings).run moves = some w) : Mark.Scheduled settings w.marks := by
  have hpaced := (paced_start settings).run h
  exact hpaced.tells.kept.scheduled hpaced.tells.whole

/-- A session is opened and begins to run. -/
def openingMoves (session : String) (now : Nat) : List ClientMove :=
  [.step now (.dialed session), .step now .written, .step now .written, .step now .goOn,
    .step now .goOn]

/-- A first attempt that is refused, a session that is lost before it counts as stable, one that is
lost after that, and a wait by whose end a stop has been requested. -/
def thriceMoves : List ClientMove :=
  [.connect, .step 0 .goOn, .step 0 .refused, .step Clock.second .timeUp] ++
    openingMoves "one" Clock.second ++
    [.step (10 * Clock.second) .lost, .step (10 * Clock.second) .closed,
      .step (12 * Clock.second) .timeUp] ++
    openingMoves "two" (12 * Clock.second) ++
    [.step (42 * Clock.second) .stable, .step (50 * Clock.second) .lost,
      .step (50 * Clock.second) .closed, .requestStop, .step (51 * Clock.second) .timeUp]

/-- The waits are of one second, of two, and of one again. -/
theorem run_scheduled_thriceMoves :
    let settings : ClientSettings :=
      ⟨none, ["lp"], 45 * Clock.second, 30 * Clock.second, .standard⟩
    let marks : List Mark :=
      [.counted, .woke (51 * Clock.second) true, .waits (50 * Clock.second) (51 * Clock.second),
        .failed (.listening false) (50 * Clock.second), .settled (42 * Clock.second),
        .ran (12 * Clock.second), .dialed, .counted, .woke (12 * Clock.second) false,
        .waits (10 * Clock.second) (12 * Clock.second),
        .failed (.listening false) (10 * Clock.second), .ran Clock.second, .dialed, .counted,
        .woke Clock.second false, .waits 0 Clock.second, .failed .dialing 0, .dialed]
    ((start settings).run thriceMoves).map (·.marks) = some marks ∧
      Mark.Scheduled settings marks := by
  intro settings marks
  have h : ((start settings).run thriceMoves).map (·.marks) = some marks := by decide +kernel
  obtain ⟨w, hrun, hmarks⟩ := Option.map_eq_some_iff.mp h
  exact ⟨h, hmarks ▸ run_scheduled hrun⟩

/-- A first attempt that is refused, and a session that writes from its second second to its
forty-sixth. -/
def stuckMoves (i : Instrument) : List ClientMove :=
  [.connect, .step 0 .goOn, .step 0 .refused, .step Clock.second .timeUp] ++
    openingMoves "one" Clock.second ++
    [.subscribe i, .step Clock.second .change, .step (46 * Clock.second) .timeUp,
      .step (46 * Clock.second) .closed]

/-- **A session that outlives its stability window in a write does not begin the count anew**: it
has run for three quarters of a minute, where half a minute is enough, and the wait is that after
two failures in a row. -/
theorem run_outlivesUnsettled :
    let settings : ClientSettings :=
      ⟨none, ["lp"], 45 * Clock.second, 30 * Clock.second, .standard⟩
    let aapl : Instrument := ⟨"NASDAQ", "AAPL", by decide, by decide, by decide⟩
    ((start settings).run (stuckMoves aapl)).map (·.marks) =
        some [.waits (46 * Clock.second) (48 * Clock.second),
          .failed .writing (46 * Clock.second), .ran Clock.second, .dialed, .counted,
          .woke Clock.second false, .waits 0 Clock.second, .failed .dialing 0, .dialed] ∧
      Clock.wakeUp Clock.second settings.stabilityWindow < 46 * Clock.second ∧
      Clock.wakeUp (46 * Clock.second) (settings.backoff.delay 0) ≠ 48 * Clock.second := by
  exact ⟨by decide +kernel, by decide, by decide⟩

end Journal

end CandleFeed

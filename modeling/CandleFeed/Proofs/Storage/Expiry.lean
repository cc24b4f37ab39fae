import Mathlib.Data.List.Induction
import CandleFeed.Proofs.Storage.Table
import CandleFeed.Storage.Cache

/-!
# A cache is a map whose texts expire

Entries that have expired are passed over by what reads, and swept out by what sets.  Neither shows:
a **`CacheCall`** is answered as if every text simply stopped being there when its time is over.

**`CacheCall.Holds`** says what calls leave under a key, in terms of the calls alone: a text was set
for it, nothing was done to the key since, and the time of that text is not over.
**`CacheCall.Answered`** says what a call is answered with after others.  One call keeps a cache
reflecting what the calls leave (`Reflects.perform`), and so do any number (`reflects_after`);
**`Cache.answers_answered`** says it of the answers.
-/

namespace CandleFeed

/-! ## Sweeping -/

/-- What has not expired at an instant had not expired before. -/
theorem CacheEntry.isLive_of_le {entry : CacheEntry} {now t : Nat} (hnow : now ≤ t)
    (h : entry.isLive t = true) : entry.isLive now = true := by
  unfold isLive at h ⊢
  split
  · rename_i deadline hdeadline
    simp only [hdeadline, decide_eq_true_eq] at h ⊢
    omega
  · rfl

/-- An entry is live until its time is over. -/
theorem CacheEntry.isLive_iff {value : String} {now t : Nat} {ttl : Option Nat} :
    isLive ⟨value, ttl.map (now + ·)⟩ t = true ↔ ∀ length ∈ ttl, t < now + length := by
  cases ttl <;> simp [isLive]

namespace Cache

/-- A text that is found is that of a live entry. -/
theorem get?_eq_some_iff {c : Cache} {t : Nat} {key value : String} :
    c.get? t key = some value ↔
      ∃ entry, c.entries.get? key = some entry ∧ entry.isLive t = true ∧ entry.value = value := by
  unfold get?
  simp only [Option.map_eq_some_iff, Option.filter_eq_some_iff, and_assoc]

/-- Sweeping takes away nothing that is found later. -/
theorem get?_sweep (c : Cache) {now t : Nat} (hnow : now ≤ t) (key : String) :
    (c.sweep now).get? t key = c.get? t key := by
  unfold get?
  congr 1
  refine Option.ext fun entry => ?_
  rw [Option.filter_eq_some_iff, Option.filter_eq_some_iff]
  unfold sweep
  rw [Table.get?_filter_eq_some_iff, and_assoc]
  refine and_congr_right fun _ => ?_
  exact and_iff_right_of_imp (CacheEntry.isLive_of_le hnow)

/-- What sweeping leaves is what is found at that instant, and is counted. -/
theorem mem_keys_sweep_iff {c : Cache} {now : Nat} {key : String} :
    key ∈ (c.sweep now).entries.keys ↔ ∃ value, c.get? now key = some value := by
  rw [Table.mem_keys_iff, Option.isSome_iff_exists]
  simp only [sweep, Table.get?_filter_eq_some_iff, get?_eq_some_iff]
  constructor
  · rintro ⟨entry, hentry, hlive⟩
    exact ⟨entry.value, entry, hentry, hlive, rfl⟩
  · rintro ⟨value, entry, hentry, hlive, -⟩
    exact ⟨entry, hentry, hlive⟩

theorem length_keys_sweep (c : Cache) (now : Nat) :
    (c.sweep now).entries.keys.length = c.size now := by
  unfold Table.keys
  rw [List.length_map]
  rfl

/-! ## Setting and taking away -/

/-- A text that is set changes nothing that is found later under another key. -/
theorem get?_set_of_ne (c : Cache) {now t : Nat} (hnow : now ≤ t) {key key' : String}
    (hne : key ≠ key') (value : String) (ttl : Option Nat) :
    (c.set now key value ttl).1.get? t key' = c.get? t key' := by
  have hinsert : ∀ entry, Cache.get? ⟨(c.sweep now).entries.insert key entry⟩ t key' =
      c.get? t key' := by
    intro entry
    rw [← c.get?_sweep hnow key']
    unfold get?
    rw [Table.get?_insert, if_neg hne]
  unfold set
  simp only
  split
  · exact hinsert _
  · split
    · exact hinsert _
    · exact c.get?_sweep hnow key'

/-- A text that has room for its time is set. -/
theorem set_eq (c : Cache) {now : Nat} {ttl : Option Nat}
    (hroom : ∀ length ∈ ttl, now + length ≤ Clock.lastInstant) (key value : String) :
    c.set now key value ttl =
      (⟨(c.sweep now).entries.insert key ⟨value, ttl.map (now + ·)⟩⟩, true) := by
  cases ttl with
  | none => rfl
  | some length =>
    have hdeadline : Clock.deadline? now length = some (now + length) := if_pos (hroom length rfl)
    simp only [set, hdeadline, Option.map_some]

/-- So is a text that expires, if the end of its time exists. -/
theorem set_some_eq (c : Cache) {now ttl : Nat} (hroom : now + ttl ≤ Clock.lastInstant)
    (key value : String) :
    c.set now key value (some ttl) =
      (⟨(c.sweep now).entries.insert key ⟨value, some (now + ttl)⟩⟩, true) := by
  apply c.set_eq
  rintro length ⟨⟩
  exact hroom

/-- **A text that is set replaces what its key had**, and when that expired. -/
theorem entry_set (c : Cache) {now : Nat} {ttl : Option Nat}
    (hroom : ∀ length ∈ ttl, now + length ≤ Clock.lastInstant) (key value : String) :
    (c.set now key value ttl).1.entries.get? key = some ⟨value, ttl.map (now + ·)⟩ := by
  rw [c.set_eq hroom, Table.get?_insert, if_pos rfl]

/-- A text that is set is found until its time is over. -/
theorem get?_set_self (c : Cache) {now t : Nat} {ttl : Option Nat} {key value found : String}
    (hroom : ∀ length ∈ ttl, now + length ≤ Clock.lastInstant) :
    (c.set now key value ttl).1.get? t key = some found ↔
      value = found ∧ ∀ length ∈ ttl, t < now + length := by
  rw [get?_eq_some_iff]
  simp only [c.entry_set hroom, Option.some.injEq, exists_eq_left', CacheEntry.isLive_iff]
  exact and_comm

/-- Taking a key away leaves what is found under the others. -/
theorem get?_erase (c : Cache) (t : Nat) (key key' : String) :
    (c.erase key).get? t key' = if key = key' then none else c.get? t key' := by
  unfold get? erase
  rw [Table.get?_erase]
  split <;> rfl

end Cache

/-! ## Calls -/

/-- A call on a cache. -/
inductive CacheCall where
  /-- Gives a key a text that expires after a length of time, or never. -/
  | set (key value : String) (ttl : Option Nat)
  /-- Takes a key away. -/
  | erase (key : String)
  /-- Asks for the text of a key. -/
  | get (key : String)
  /-- Asks whether a key has a text. -/
  | contains (key : String)
  /-- Asks how many keys have one. -/
  | size

/-- What a call is answered with. -/
inductive CacheAnswer where
  /-- It is done, unless the text would expire after the last instant. -/
  | done (written : Bool)
  /-- The text, if there is one. -/
  | text (found : Option String)
  /-- There is a text. -/
  | presence (found : Bool)
  /-- So many keys. -/
  | count (n : Nat)
deriving DecidableEq

namespace Cache

/-- Makes a call at an instant. -/
def perform (c : Cache) (now : Nat) : CacheCall → Cache × CacheAnswer
  | .set key value ttl =>
    let (c, written) := c.set now key value ttl
    (c, .done written)
  | .erase key => (c.erase key, .done true)
  | .get key => (c, .text (c.get? now key))
  | .contains key => (c, .presence (c.contains now key))
  | .size => (c, .count (c.size now))

/-- The cache after calls, each with its instant. -/
def after (c : Cache) (calls : List (Nat × CacheCall)) : Cache :=
  calls.foldl (fun c call => (c.perform call.1 call.2).1) c

/-- What calls are answered with, one after another. -/
def answers (c : Cache) : List (Nat × CacheCall) → List CacheAnswer
  | [] => []
  | call :: calls => (c.perform call.1 call.2).2 :: (c.perform call.1 call.2).1.answers calls

theorem after_concat (c : Cache) (calls : List (Nat × CacheCall)) (call : Nat × CacheCall) :
    c.after (calls ++ [call]) = ((c.after calls).perform call.1 call.2).1 := by
  unfold after
  rw [List.foldl_append]
  rfl

/-- A call is answered by the cache that the calls before it leave. -/
theorem getElem?_answers (c : Cache) (past future : List (Nat × CacheCall))
    (call : Nat × CacheCall) :
    (c.answers (past ++ call :: future))[past.length]? =
      some ((c.after past).perform call.1 call.2).2 := by
  induction past generalizing c with
  | nil => rfl
  | cons first past ih => exact ih (c.perform first.1 first.2).1

end Cache

namespace CacheCall

/-- The key that a call sets or takes away. -/
def key? : CacheCall → Option String
  | set key _ _ => some key
  | erase key => some key
  | _ => none

/-- How long the text that a call sets lives. -/
def ttl? : CacheCall → Option Nat
  | set _ _ ttl => ttl
  | _ => none

/-- The text that a call sets would expire no later than the clock ends. -/
def HasRoom (call : CacheCall) (now : Nat) : Prop :=
  ∀ length ∈ call.ttl?, now + length ≤ Clock.lastInstant

/-- Calls leave a text under a key at an instant: it was set, no call set the key or took it away
since, and its time is not over. -/
def Holds (past : List (Nat × CacheCall)) (t : Nat) (key value : String) : Prop :=
  ∃ earlier now ttl later, past = earlier ++ (now, set key value ttl) :: later ∧
    (∀ call ∈ later, call.2.key? ≠ some key) ∧ ∀ length ∈ ttl, t < now + length

variable {past : List (Nat × CacheCall)} {t : Nat} {key value : String}

theorem not_holds_nil : ¬ Holds [] t key value := by
  rintro ⟨earlier, now, ttl, later, hpast, -⟩
  exact absurd hpast.symm (List.append_ne_nil_of_right_ne_nil _ (List.cons_ne_nil _ _))

/-- One more call leaves a text if it is the one that sets it, or does nothing to its key. -/
theorem holds_concat_iff {call : Nat × CacheCall} :
    Holds (past ++ [call]) t key value ↔
      (∃ now ttl, call = (now, set key value ttl) ∧ ∀ length ∈ ttl, t < now + length) ∨
        call.2.key? ≠ some key ∧ Holds past t key value := by
  constructor
  · rintro ⟨earlier, now, ttl, later, hpast, hlater, htime⟩
    -- the text was set by the last call, or by one before it
    rcases List.eq_nil_or_concat later with rfl | ⟨between, last, rfl⟩
    · obtain ⟨-, hcall⟩ := List.append_inj' hpast rfl
      exact .inl ⟨now, ttl, (List.cons.inj hcall).1, htime⟩
    · rw [List.concat_eq_append] at hpast hlater
      have hsplit : past ++ [call] = (earlier ++ (now, set key value ttl) :: between) ++ [last] := by
        rw [hpast, List.append_assoc, List.cons_append]
      obtain ⟨rfl, hcall⟩ := List.append_inj' hsplit rfl
      obtain rfl := (List.cons.inj hcall).1
      rw [List.forall_mem_append] at hlater
      exact .inr ⟨hlater.2 call (List.mem_singleton.mpr rfl), earlier, now, ttl, between, rfl,
        hlater.1, htime⟩
  · rintro (⟨now, ttl, rfl, htime⟩ | ⟨hkey, earlier, now, ttl, later, rfl, hlater, htime⟩)
    · exact ⟨past, now, ttl, [], rfl, nofun, htime⟩
    · refine ⟨earlier, now, ttl, later ++ [call], by rw [List.append_assoc, List.cons_append], ?_,
        htime⟩
      rw [List.forall_mem_append]
      refine ⟨hlater, ?_⟩
      intro last hlast
      rw [List.mem_singleton.mp hlast]
      exact hkey

/-- What a call at an instant is answered with, after the calls before it. -/
inductive Answered (past : List (Nat × CacheCall)) (now : Nat) : CacheCall → CacheAnswer → Prop
  /-- A text is set. -/
  | set (key value : String) (ttl : Option Nat) :
      Answered past now (.set key value ttl) (.done true)
  /-- A key is taken away. -/
  | erase (key : String) : Answered past now (.erase key) (.done true)
  /-- The text of a key is what the calls leave there. -/
  | get {key : String} {found : Option String}
      (h : ∀ value, found = some value ↔ Holds past now key value) :
      Answered past now (.get key) (.text found)
  /-- A key has a text if the calls leave one there. -/
  | contains {key : String} {found : Bool} (h : found = true ↔ ∃ value, Holds past now key value) :
      Answered past now (.contains key) (.presence found)
  /-- The keys that have a text are those where the calls leave one. -/
  | size {keys : List String} (hnodup : keys.Nodup)
      (h : ∀ key, key ∈ keys ↔ ∃ value, Holds past now key value) :
      Answered past now .size (.count keys.length)

end CacheCall

open CacheCall (Holds Answered)

namespace Cache

/-- What is found in a cache, now or later, is what calls leave. -/
def Reflects (c : Cache) (past : List (Nat × CacheCall)) : Prop :=
  ∀ t, (∀ call ∈ past, call.1 ≤ t) →
    ∀ key value, c.get? t key = some value ↔ Holds past t key value

variable {c : Cache} {past : List (Nat × CacheCall)} {now : Nat}

theorem reflects_empty : empty.Reflects [] := by
  intro t _ key value
  exact iff_of_false (by simp [get?, empty, Table.get?_empty]) CacheCall.not_holds_nil

/-- **A call keeps a cache reflecting what calls leave.** -/
theorem Reflects.perform (h : c.Reflects past) {call : CacheCall} (hroom : call.HasRoom now) :
    (c.perform now call).1.Reflects (past ++ [(now, call)]) := by
  intro t htimes key value
  rw [List.forall_mem_append, List.forall_mem_singleton] at htimes
  obtain ⟨hpast, hnow⟩ := htimes
  have hfound := h t hpast key value
  -- a call that sets no key and takes none away leaves both sides as they were
  have hreads (hcall : call.key? = none) (hset : ∀ key' value' ttl, call ≠ .set key' value' ttl) :
      c.get? t key = some value ↔ Holds (past ++ [(now, call)]) t key value := by
    rw [CacheCall.holds_concat_iff, hcall, hfound]
    constructor
    · intro hholds
      exact .inr ⟨nofun, hholds⟩
    · rintro (⟨now', ttl, hcall', -⟩ | ⟨-, hholds⟩)
      · exact absurd (Prod.mk.inj hcall').2 (hset _ _ _)
      · exact hholds
  cases call with
  | set key' value' ttl =>
    rw [CacheCall.holds_concat_iff]
    show (c.set now key' value' ttl).1.get? t key = some value ↔ _
    have htime : ∀ length ∈ ttl, now + length ≤ Clock.lastInstant := hroom
    by_cases hkey : key' = key
    · subst hkey
      rw [c.get?_set_self htime]
      simp [CacheCall.key?]
    · rw [c.get?_set_of_ne hnow hkey, hfound]
      simp [CacheCall.key?, hkey]
  | erase key' =>
    rw [CacheCall.holds_concat_iff]
    show (c.erase key').get? t key = some value ↔ _
    rw [c.get?_erase]
    by_cases hkey : key' = key
    · simp [CacheCall.key?, hkey]
    · simp [CacheCall.key?, hkey, hfound]
  | get key' => exact hreads rfl nofun
  | contains key' => exact hreads rfl nofun
  | size => exact hreads rfl nofun

/-- A cache reflects what calls leave after any number of them. -/
theorem reflects_after {calls : List (Nat × CacheCall)}
    (hroom : ∀ call ∈ calls, call.2.HasRoom call.1) : (empty.after calls).Reflects calls := by
  induction calls using List.reverseRecOn with
  | nil => exact reflects_empty
  | append_singleton calls call ih =>
    rw [List.forall_mem_append, List.forall_mem_singleton] at hroom
    rw [after_concat]
    exact (ih hroom.1).perform hroom.2

/-- A cache that reflects what calls leave answers accordingly. -/
theorem Reflects.answered (h : c.Reflects past) (hpast : ∀ call ∈ past, call.1 ≤ now)
    {call : CacheCall} (hroom : call.HasRoom now) :
    Answered past now call (c.perform now call).2 := by
  have hfound := h now hpast
  cases call with
  | set key value ttl =>
    show Answered past now _ (.done (c.set now key value ttl).2)
    have htime : ∀ length ∈ ttl, now + length ≤ Clock.lastInstant := hroom
    rw [c.set_eq htime]
    exact .set key value ttl
  | erase key => exact .erase key
  | get key => exact .get fun value => hfound key value
  | contains key =>
    apply Answered.contains
    rw [Cache.contains, Option.isSome_iff_exists]
    exact exists_congr fun value => hfound key value
  | size =>
    show Answered past now _ (.count (c.size now))
    rw [← c.length_keys_sweep]
    apply Answered.size (c.sweep now).entries.keys_nodup
    intro key
    rw [mem_keys_sweep_iff]
    exact exists_congr fun value => hfound key value

/-- **A cache is a map whose texts expire.**  Of calls at instants that do not decrease, whose texts
have room for their time, each is answered by what the calls before it leave.  When a text is set,
the sweep takes away nothing that is found then or later, and what the key had is replaced together
with when that expired. -/
theorem answers_answered {calls : List (Nat × CacheCall)}
    (hordered : calls.Pairwise fun first second => first.1 ≤ second.1)
    (hroom : ∀ call ∈ calls, call.2.HasRoom call.1) :
    (∀ past now call future, calls = past ++ (now, call) :: future →
      ∃ answer, (empty.answers calls)[past.length]? = some answer ∧ Answered past now call answer) ∧
    ∀ past now key value ttl future, calls = past ++ (now, .set key value ttl) :: future →
      (∀ t, now ≤ t → ∀ key',
        ((empty.after past).sweep now).get? t key' = (empty.after past).get? t key') ∧
      ((empty.after past).set now key value ttl).1.entries.get? key =
        some ⟨value, ttl.map (now + ·)⟩ := by
  constructor
  · rintro past now call future rfl
    rw [List.forall_mem_append, List.forall_mem_cons] at hroom
    obtain ⟨hbefore, hcall, -⟩ := hroom
    have hpast : ∀ first ∈ past, first.1 ≤ now := by
      intro first hfirst
      exact (List.pairwise_append.mp hordered).2.2 first hfirst (now, call) List.mem_cons_self
    refine ⟨_, empty.getElem?_answers past future (now, call), ?_⟩
    exact (reflects_after hbefore).answered hpast hcall
  · rintro past now key value ttl future rfl
    rw [List.forall_mem_append, List.forall_mem_cons] at hroom
    obtain ⟨-, hcall, -⟩ := hroom
    constructor
    · intro t ht key'
      exact (empty.after past).get?_sweep ht key'
    · exact (empty.after past).entry_set hcall key value

/-- A text is overwritten by one that lives shorter, one has no time at all, and one is taken
away. -/
def changingCalls : List (Nat × CacheCall) :=
  [(0, .set "a" "first" (some 9)), (0, .set "b" "" none), (1, .get "a"),
    (2, .set "a" "second" (some 3)), (4, .get "a"), (5, .contains "a"), (5, .size),
    (5, .set "c" "never" (some 0)), (5, .get "c"), (6, .erase "b"), (6, .size)]

theorem answers_answered_changing :
    (changingCalls.Pairwise fun first second => first.1 ≤ second.1) ∧
      (∀ call ∈ changingCalls, call.2.HasRoom call.1) ∧
      empty.answers changingCalls =
        [.done true, .done true, .text (some "first"), .done true, .text (some "second"),
          .presence false, .count 1, .done true, .text none, .done true, .count 0] ∧
      Answered (changingCalls.take 5) 5 (.contains "a") (.presence false) ∧
      ((empty.after (changingCalls.take 3)).set 2 "a" "second" (some 3)).1.entries.get? "a" =
        some ⟨"second", some 5⟩ := by
  have hordered : changingCalls.Pairwise fun first second => first.1 ≤ second.1 := by decide
  have hroom : ∀ call ∈ changingCalls, call.2.HasRoom call.1 := by
    unfold CacheCall.HasRoom
    decide +kernel
  have hanswers : empty.answers changingCalls =
      [.done true, .done true, .text (some "first"), .done true, .text (some "second"),
        .presence false, .count 1, .done true, .text none, .done true, .count 0] := by
    decide +kernel
  obtain ⟨hanswered, hset⟩ := answers_answered hordered hroom
  refine ⟨hordered, hroom, hanswers, ?_, (hset (changingCalls.take 3) 2 _ _ _ _ rfl).2⟩
  obtain ⟨answer, hanswer, hcontains⟩ := hanswered (changingCalls.take 5) 5 (.contains "a") _ rfl
  rw [hanswers] at hanswer
  obtain rfl := Option.some.inj hanswer
  exact hcontains

end Cache

end CandleFeed

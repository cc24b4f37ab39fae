import CandleFeed.Proofs.Storage.Keeping

/-!
# Records that share a cache

A cache has a **`Slot`** for the latest quote of each instrument, and one for the bar in progress of
each instrument and granularity.  Symbols may have colons, and may end like the name of a
granularity; even so no two slots have one key (`Slot.key_injective`).

So a **`QuoteChange`** shows in its own slot alone.  One change leaves what is found under the key
of another slot (`QuoteCache.get?_change`), and so do any number (`get?_changeAll`), whether they
are made, fail, or break off; **`QuoteCache.slots_apart`** says it of what is read.
-/

namespace CandleFeed

/-! ## Slots -/

/-- A place in a cache. -/
inductive Slot where
  /-- For the latest quote of an instrument. -/
  | latest (i : Instrument)
  /-- For a bar in progress. -/
  | current (i : Instrument) (g : Granularity)
deriving DecidableEq

/-- The key of a slot. -/
def Slot.key : Slot → String
  | latest i => latestKey i
  | current i g => currentKey i g

/-- **No two slots have one key.** -/
theorem Slot.key_injective {s s' : Slot} (h : s.key = s'.key) : s = s' := by
  cases s with
  | latest i =>
    cases s' with
    | latest j => exact congrArg latest (latestKey_injective h)
    | current j g => exact absurd h (latestKey_ne_currentKey i j g)
  | current i g =>
    cases s' with
    | latest j => exact absurd h.symm (latestKey_ne_currentKey j i g)
    | current j g' =>
      obtain ⟨rfl, rfl⟩ := currentKey_injective h
      rfl

/-! ## Other keys of a cache -/

namespace CacheLink

variable (l : CacheLink) {now t : Nat} {key key' : String}

/-- Setting a text changes nothing that is found later under another key. -/
theorem get?_set_of_ne (hnow : now ≤ t) (hne : key ≠ key') (value : String) (ttl : Option Nat) :
    (l.set now key value ttl).1.cache.get? t key' = l.cache.get? t key' := by
  apply l.call_cache (P := fun c => c.get? t key' = l.cache.get? t key')
  · rfl
  · exact l.cache.get?_set_of_ne hnow hne value ttl

/-- Nor does taking a key away. -/
theorem get?_erase_of_ne (hne : key ≠ key') :
    (l.erase key).1.cache.get? t key' = l.cache.get? t key' := by
  apply l.call_cache (P := fun c => c.get? t key' = l.cache.get? t key')
  · rfl
  · show (l.cache.erase key).get? t key' = l.cache.get? t key'
    rw [Cache.get?_erase, if_neg hne]

end CacheLink

/-! ## Changes -/

/-- A change to what a cache has of quotes and bars. -/
inductive QuoteChange where
  /-- Writes a latest quote. -/
  | setLatest (quote : Quote)
  /-- Takes a latest quote away. -/
  | clearLatest (i : Instrument)
  /-- Writes a bar in progress. -/
  | setCurrent (bar : OpenBar)

/-- The slot that is changed. -/
def QuoteChange.slot : QuoteChange → Slot
  | setLatest quote => .latest quote.instrument
  | clearLatest i => .latest i
  | setCurrent bar => .current bar.instrument bar.granularity

namespace QuoteCache

/-- The cache after a change at an instant. -/
def change (q : QuoteCache) (now : Nat) : QuoteChange → QuoteCache
  | .setLatest quote => (q.setLatest now quote).1
  | .clearLatest i => (q.clearLatest i).1
  | .setCurrent bar => (q.setCurrent now bar).1

/-- The cache after changes, each with its instant. -/
def changeAll (q : QuoteCache) (changes : List (Nat × QuoteChange)) : QuoteCache :=
  changes.foldl (fun q c => q.change c.1 c.2) q

/-- A change is one call. -/
theorem change_link (q : QuoteCache) (now : Nat) (c : QuoteChange) :
    (q.change now c).link.failure = q.link.failure ∧
      (q.change now c).link.calls = q.link.calls + 1 := by
  cases c with
  | setLatest quote =>
    exact ⟨q.setLatest_failure now quote, q.link.set_calls now _ _ (some q.quoteTtl)⟩
  | clearLatest i => exact ⟨q.clearLatest_failure i, q.link.erase_calls (latestKey i)⟩
  | setCurrent bar =>
    exact ⟨q.setCurrent_failure now bar, q.link.set_calls now _ _ (some q.barTtl)⟩

/-- Changes are as many calls. -/
theorem changeAll_link (q : QuoteCache) (changes : List (Nat × QuoteChange)) :
    (q.changeAll changes).link.failure = q.link.failure ∧
      (q.changeAll changes).link.calls = q.link.calls + changes.length := by
  induction changes generalizing q with
  | nil => exact ⟨rfl, rfl⟩
  | cons c changes ih =>
    obtain ⟨hfailure, hcalls⟩ := q.change_link c.1 c.2
    obtain ⟨hfailure', hcalls'⟩ := ih (q.change c.1 c.2)
    constructor
    · exact hfailure'.trans hfailure
    · rw [hcalls, Nat.add_assoc, Nat.add_comm 1] at hcalls'
      exact hcalls'

/-- **A change leaves what is found in another slot.** -/
theorem get?_change (q : QuoteCache) {c : QuoteChange} {now t : Nat} (hnow : now ≤ t) {s : Slot}
    (hs : c.slot ≠ s) :
    (q.change now c).link.cache.get? t s.key = q.link.cache.get? t s.key := by
  have hkey : c.slot.key ≠ s.key := by
    intro h
    exact hs (Slot.key_injective h)
  cases c with
  | setLatest quote =>
    exact q.link.get?_set_of_ne hnow hkey quote.toJson.render (some q.quoteTtl)
  | clearLatest i => exact q.link.get?_erase_of_ne hkey
  | setCurrent bar => exact q.link.get?_set_of_ne hnow hkey bar.toJson.render (some q.barTtl)

/-- So do any number of changes. -/
theorem get?_changeAll (q : QuoteCache) {changes : List (Nat × QuoteChange)} {t : Nat}
    (htimes : ∀ c ∈ changes, c.1 ≤ t) {s : Slot} (hs : ∀ c ∈ changes, c.2.slot ≠ s) :
    (q.changeAll changes).link.cache.get? t s.key = q.link.cache.get? t s.key := by
  induction changes generalizing q with
  | nil => rfl
  | cons c changes ih =>
    rw [List.forall_mem_cons] at htimes hs
    have hrest := ih (q.change c.1 c.2) htimes.2 hs.2
    exact hrest.trans (q.get?_change htimes.1 hs.1)

/-- What is read under a key comes from what the cache has there and from whether the call is
made. -/
theorem fetch_congr {α : Type} {q q' : QuoteCache} {t : Nat} {key : String}
    (hfailure : q'.link.failure q'.link.calls = q.link.failure q.link.calls)
    (hget : q'.link.cache.get? t key = q.link.cache.get? t key) (ofJson? : Json → Option α) :
    (q'.fetch t key ofJson?).2 = (q.fetch t key ofJson?).2 := by
  have hlink : (q'.link.get? t key).2 = (q.link.get? t key).2 := by
    unfold CacheLink.get? CacheLink.call
    rw [hfailure]
    cases q.link.failure q.link.calls with
    | none => exact congrArg Except.ok hget
    | some reason => rfl
  simp only [fetch, hlink]

/-- **Records that share a cache are apart.**  A key of a latest quote tells its instrument, one of
a bar in progress its instrument and granularity, and none is of both kinds.  So what is read as the
latest quote of an instrument, or as a bar in progress, is what was read before any changes to other
slots, if the two calls are both made or fail for one reason. -/
theorem slots_apart :
    (∀ i j, latestKey i = latestKey j → i = j) ∧
    (∀ i j g h, currentKey i g = currentKey j h → i = j ∧ g = h) ∧
    (∀ i j g, latestKey i ≠ currentKey j g) ∧
    ∀ (q : QuoteCache) (changes : List (Nat × QuoteChange)) (t : Nat),
      (∀ c ∈ changes, c.1 ≤ t) →
      q.link.failure (q.link.calls + changes.length) = q.link.failure q.link.calls →
        (∀ i, (∀ c ∈ changes, c.2.slot ≠ .latest i) →
          ((q.changeAll changes).latest t i).2 = (q.latest t i).2) ∧
        ∀ i g, (∀ c ∈ changes, c.2.slot ≠ .current i g) →
          ((q.changeAll changes).current t i g).2 = (q.current t i g).2 := by
  refine ⟨?latest, ?current, ?kinds, ?reads⟩
  case latest =>
    intro i j
    exact latestKey_injective
  case current =>
    intro i j g h
    exact currentKey_injective
  case kinds => exact latestKey_ne_currentKey
  case reads =>
    intro q changes t htimes hreach
    have hfailure : (q.changeAll changes).link.failure (q.changeAll changes).link.calls =
        q.link.failure q.link.calls := by
      obtain ⟨hsame, hcalls⟩ := q.changeAll_link changes
      rw [hsame, hcalls]
      exact hreach
    constructor
    · intro i hi
      exact fetch_congr hfailure (q.get?_changeAll htimes (s := .latest i) hi) Quote.ofJson?
    · intro i g hg
      exact fetch_congr hfailure (q.get?_changeAll htimes (s := .current i g) hg) OpenBar.ofJson?

/-! ## Two instruments with names alike

The key of the one's bar of the month ends like the key of the other's latest quote. -/

/-- An instrument. -/
def share : Instrument := ⟨"NASDAQ", "AAPL", by decide, by decide, by decide⟩

/-- One whose symbol ends like the name of a granularity. -/
def lookalike : Instrument := ⟨"NASDAQ", "AAPL:1M", by decide, by decide, by decide⟩

/-- A bar in progress. -/
def shareBar : OpenBar :=
  ⟨share, .month1, .epoch, (Timestamp.ofSeconds? 2678400).getD .epoch, ⟨1, 2, 0.5, 1.5, 3⟩, 2⟩

/-- A latest quote. -/
def lookalikeQuote : Quote :=
  ⟨lookalike, .epoch, 7, none, none, none, none, none, none, none, none, none⟩

theorem regular_shareBar : shareBar.Regular where
  instrument := ⟨"nasdaq", "aapl", by decide +kernel⟩
  bucketStart := by decide
  bucketEnd := by decide
  ohlcv := by constructor <;> decide +kernel
  tickCount := by decide

theorem regular_lookalikeQuote : lookalikeQuote.Regular where
  instrument := ⟨"nasdaq", "aapl:1m", by decide +kernel⟩
  timestamp := by decide
  lastPrice := by decide +kernel
  extras := by decide +kernel

/-- A cache that has the quote. -/
def quotedCache : QuoteCache := ((standard .reliable).setLatest 0 lookalikeQuote).1

/-- A bar in progress of the one that looks like the other, and a quote of the other that comes and
goes. -/
def otherChanges : List (Nat × QuoteChange) :=
  [(1, .setCurrent { shareBar with instrument := lookalike, granularity := .minute1 }),
    (2, .setLatest { lookalikeQuote with instrument := share }), (3, .clearLatest share)]

/-- Those changes show in neither of two slots, and the bar does not show in that of the quote. -/
theorem slots_apart_alike :
    (∀ c ∈ (0, .setCurrent shareBar) :: otherChanges, c.1 ≤ 4) ∧
      quotedCache.link.NeverFails ∧
      (∀ c ∈ (0, .setCurrent shareBar) :: otherChanges, c.2.slot ≠ .latest lookalike) ∧
      (∀ c ∈ otherChanges, c.2.slot ≠ .current share .month1) ∧
      ((quotedCache.changeAll ((0, .setCurrent shareBar) :: otherChanges)).latest 4 lookalike).2 =
        .ok (some lookalikeQuote) ∧
      ((quotedCache.changeAll ((0, .setCurrent shareBar) :: otherChanges)).current 4 share
        .month1).2 = .ok (some shareBar) := by
  have htimes : ∀ c ∈ (0, .setCurrent shareBar) :: otherChanges, c.1 ≤ 4 := by decide
  have hnever : quotedCache.link.NeverFails := fun _ => rfl
  have hquote : ∀ c ∈ (0, .setCurrent shareBar) :: otherChanges, c.2.slot ≠ .latest lookalike := by
    decide
  have hbar : ∀ c ∈ otherChanges, c.2.slot ≠ .current share .month1 := by decide
  have hlatest : (quotedCache.latest 4 lookalike).2 = .ok (some lookalikeQuote) :=
    latest_setLatest (fun _ => rfl) ⟨_, rfl, by decide⟩ regular_lookalikeQuote
  have hpending : Clock.Pending 0 (300 * Clock.second) 4 := ⟨_, rfl, by decide⟩
  have hcurrent : ((quotedCache.setCurrent 0 shareBar).1.current 4 share .month1).2 =
      .ok (some shareBar) :=
    current_setCurrent hnever hpending regular_shareBar
  obtain ⟨-, -, -, hreads⟩ := slots_apart
  obtain ⟨hquotes, -⟩ := hreads quotedCache _ 4 htimes rfl
  obtain ⟨-, hbars⟩ := hreads (quotedCache.setCurrent 0 shareBar).1 otherChanges 4
    (List.forall_mem_cons.mp htimes).2 rfl
  exact ⟨htimes, hnever, hquote, hbar, (hquotes lookalike hquote).trans hlatest,
    (hbars share .month1 hbar).trans hcurrent⟩

end QuoteCache

end CandleFeed

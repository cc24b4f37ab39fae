import Mathlib.Data.List.Basic
import CandleFeed.Proofs.Market.Instrument
import CandleFeed.Proofs.Storage.Table
import CandleFeed.Storage.QuoteCache

/-!
# What a cache has as a latest quote

The name of an instrument tells it, so the key of a latest quote tells its instrument
(`latestKey_injective`); the granularity stands after the last colon of a key of a bar, so that such
a key tells both (`currentKey_injective`); and no key is of both kinds (`latestKey_ne_currentKey`).
What the cache has under the key of a latest quote are therefore texts of quotes of that instrument:
**`QuoteCache.LatestIs`** says which, and only writing a quote of the instrument adds one
(`LatestIs.setLatest`).  On a cache that never fails (**`CacheLink.NeverFails`**) nothing is left of
a quote that is taken away (`latestIs_clearLatest`).
-/

namespace CandleFeed

/-! ## Keys -/

/-- The part after the last colon tells what is before and what is after it. -/
theorem append_last_colon_injective {s s' g g' : List Char} (hg : ':' ∉ g) (hg' : ':' ∉ g')
    (h : s ++ ':' :: g = s' ++ ':' :: g') : s = s' ∧ g = g' := by
  have hreversed : g.reverse ++ ':' :: s.reverse = g'.reverse ++ ':' :: s'.reverse := by
    have := congrArg List.reverse h
    simpa using this
  rw [← List.mem_reverse] at hg hg'
  obtain ⟨hafter, hbefore⟩ := append_colon_injective hg hg' hreversed
  exact ⟨List.reverse_injective hbefore, List.reverse_injective hafter⟩

/-- The name of a granularity has no colon. -/
theorem Granularity.colon_not_mem_name (g : Granularity) : ':' ∉ g.name.toList := by
  cases g <;> decide

/-- A granularity has its name alone. -/
theorem Granularity.name_injective {g h : Granularity} (heq : g.name = h.name) : g = h := by
  revert heq
  cases g <;> cases h <;> decide

/-- The characters of a latest quote's key: a label and the name of the instrument. -/
theorem toList_latestKey (i : Instrument) :
    (latestKey i).toList = "quote:latest:".toList ++ i.name.toList := by
  unfold latestKey Instrument.name
  simp only [String.toList_append, List.append_assoc]

/-- The characters of the key of a bar in progress: a label, the name of the instrument, and that of
the granularity after a colon. -/
theorem toList_currentKey (i : Instrument) (g : Granularity) :
    (currentKey i g).toList = "bar:current:".toList ++ (i.name.toList ++ ':' :: g.name.toList) := by
  unfold currentKey Instrument.name
  simp only [String.toList_append, List.append_assoc]
  rfl

/-- **The key of a latest quote tells its instrument.** -/
theorem latestKey_injective {i j : Instrument} (h : latestKey i = latestKey j) : i = j := by
  have hlist := congrArg String.toList h
  rw [toList_latestKey, toList_latestKey, List.append_cancel_left_eq] at hlist
  exact Instrument.name_injective (String.toList_injective hlist)

/-- **The key of a bar in progress tells its instrument and its granularity.** -/
theorem currentKey_injective {i j : Instrument} {g h : Granularity}
    (heq : currentKey i g = currentKey j h) : i = j ∧ g = h := by
  have hlist := congrArg String.toList heq
  rw [toList_currentKey, toList_currentKey, List.append_cancel_left_eq] at hlist
  obtain ⟨hname, hgranularity⟩ :=
    append_last_colon_injective g.colon_not_mem_name h.colon_not_mem_name hlist
  constructor
  · exact Instrument.name_injective (String.toList_injective hname)
  · exact Granularity.name_injective (String.toList_injective hgranularity)

/-- The key of a latest quote is no key of a bar in progress. -/
theorem latestKey_ne_currentKey (i j : Instrument) (g : Granularity) :
    latestKey i ≠ currentKey j g := by
  intro h
  have hlatest : (latestKey i).toList.head? = some 'q' := by
    rw [toList_latestKey]
    rfl
  have hcurrent : (currentKey j g).toList.head? = some 'b' := by
    rw [toList_currentKey]
    rfl
  rw [h, hcurrent] at hlatest
  exact absurd hlatest (by decide)

/-! ## Calls of a cache -/

namespace CacheLink

/-- No call on the cache fails. -/
def NeverFails (l : CacheLink) : Prop := ∀ n, l.failure n = none

/-- A call leaves the calls that fail as they are. -/
theorem call_failure {α : Type} (l : CacheLink) (f : Cache → Cache × Except CacheFault α) :
    (l.call f).1.failure = l.failure := by
  unfold call
  split <;> rfl

/-- A call counts. -/
theorem call_calls {α : Type} (l : CacheLink) (f : Cache → Cache × Except CacheFault α) :
    (l.call f).1.calls = l.calls + 1 := by
  unfold call
  split <;> rfl

/-- A call leaves the cache as it is, or as the call makes it. -/
theorem call_cache {α : Type} (l : CacheLink) (f : Cache → Cache × Except CacheFault α)
    {P : Cache → Prop} (h : P l.cache) (hf : P (f l.cache).1) : P (l.call f).1.cache := by
  unfold call
  split
  · exact h
  · exact hf

/-- On a cache that never fails a call is made. -/
theorem NeverFails.call_eq {α : Type} {l : CacheLink} (h : l.NeverFails)
    (f : Cache → Cache × Except CacheFault α) :
    l.call f = ({ l with calls := l.calls + 1, cache := (f l.cache).1 }, (f l.cache).2) := by
  unfold call
  rw [h l.calls]

/-- Setting a text leaves the calls that fail as they are. -/
theorem set_failure (l : CacheLink) (now : Nat) (key value : String) (ttl : Option Nat) :
    (l.set now key value ttl).1.failure = l.failure := l.call_failure _

/-- Setting a text counts. -/
theorem set_calls (l : CacheLink) (now : Nat) (key value : String) (ttl : Option Nat) :
    (l.set now key value ttl).1.calls = l.calls + 1 := l.call_calls _

/-- **Setting a text breaks off exactly if the call is made and the text would expire after the last
instant.** -/
theorem set_outOfTime_iff (l : CacheLink) (now : Nat) (key value : String) (ttl : Nat) :
    (l.set now key value (some ttl)).2 = .error .outOfTime ↔
      l.failure l.calls = none ∧ Clock.lastInstant < now + ttl := by
  unfold set call
  cases l.failure l.calls with
  | some reason => simp
  | none =>
    simp only [Cache.set, Clock.deadline?, true_and]
    by_cases hroom : now + ttl ≤ Clock.lastInstant
    · simp [if_pos hroom, Nat.not_lt.mpr hroom]
    · simp [if_neg hroom, Nat.lt_of_not_le hroom]

/-- Taking a key away leaves the calls that fail as they are. -/
theorem erase_failure (l : CacheLink) (key : String) : (l.erase key).1.failure = l.failure :=
  l.call_failure _

/-- Taking a key away counts. -/
theorem erase_calls (l : CacheLink) (key : String) : (l.erase key).1.calls = l.calls + 1 :=
  l.call_calls _

/-- Reading leaves the calls that fail as they are. -/
theorem get?_failure (l : CacheLink) (now : Nat) (key : String) :
    (l.get? now key).1.failure = l.failure := l.call_failure _

end CacheLink

/-- Every text that a cache has under a key has a property. -/
def Cache.HasOnly (c : Cache) (key : String) (P : String → Prop) : Prop :=
  ∀ entry, c.entries.get? key = some entry → P entry.value

namespace CacheLink

variable {l : CacheLink} {key : String} {P : String → Prop}

/-- Setting a text adds it under its key, and adds nothing under another. -/
theorem hasOnly_set (h : l.cache.HasOnly key P) (now : Nat) {key' value : String}
    (ttl : Option Nat) (hvalue : key = key' → P value) :
    (l.set now key' value ttl).1.cache.HasOnly key P := by
  refine l.call_cache (P := fun c => c.HasOnly key P) _ h fun entry hentry => ?_
  have hinsert : ∀ deadline,
      ((l.cache.sweep now).entries.insert key' ⟨value, deadline⟩).get? key = some entry →
        P entry.value := by
    intro deadline hget
    rw [Table.get?_insert] at hget
    split at hget
    · rename_i heq
      rw [← Option.some.inj hget]
      exact hvalue heq.symm
    · exact h entry (Table.get?_filter_eq_some_iff.mp hget).1
  unfold Cache.set at hentry
  simp only at hentry
  split at hentry
  · exact hinsert none hentry
  · split at hentry
    · exact hinsert _ hentry
    · exact h entry (Table.get?_filter_eq_some_iff.mp hentry).1

/-- Taking a key away adds nothing. -/
theorem hasOnly_erase (h : l.cache.HasOnly key P) (key' : String) :
    (l.erase key').1.cache.HasOnly key P := by
  refine l.call_cache (P := fun c => c.HasOnly key P) _ h fun entry hentry => ?_
  simp only [Cache.erase, Table.get?_erase] at hentry
  split at hentry
  · exact absurd hentry (by simp)
  · exact h entry hentry

/-- Reading adds nothing. -/
theorem hasOnly_get? (h : l.cache.HasOnly key P) (now : Nat) (key' : String) :
    (l.get? now key').1.cache.HasOnly key P :=
  l.call_cache (P := fun c => c.HasOnly key P) _ h h

/-- On a cache that never fails nothing is left of a key that is taken away. -/
theorem NeverFails.hasOnly_erase (h : l.NeverFails) (key : String) (P : String → Prop) :
    (l.erase key).1.cache.HasOnly key P := by
  intro entry hentry
  simp only [erase, h.call_eq, Cache.erase, Table.get?_erase, if_true] at hentry
  exact absurd hentry (by simp)

end CacheLink

namespace QuoteCache

variable {q : QuoteCache} {i : Instrument} {P : String → Prop}

/-- Every text that the cache has as the latest quote of an instrument has a property. -/
def LatestIs (q : QuoteCache) (i : Instrument) (P : String → Prop) : Prop :=
  q.link.cache.HasOnly (latestKey i) P

/-- What a text reads back as. -/
def readBack (text : String) : Except CacheFault (Option Quote) :=
  match (Json.read text).bind Quote.ofJson? with
  | some quote => .ok (some quote)
  | none => .error .encoding

/-- Writing a quote of the instrument adds its text, and one of another adds nothing. -/
theorem LatestIs.setLatest (h : q.LatestIs i P) (now : Nat) {quote : Quote}
    (hquote : quote.instrument = i → P quote.toJson.render) :
    (q.setLatest now quote).1.LatestIs i P :=
  CacheLink.hasOnly_set h now (some q.quoteTtl) fun hkey => hquote (latestKey_injective hkey).symm

/-- Writing a bar in progress adds nothing. -/
theorem LatestIs.setCurrent (h : q.LatestIs i P) (now : Nat) (bar : OpenBar) :
    (q.setCurrent now bar).1.LatestIs i P :=
  CacheLink.hasOnly_set h now (some q.barTtl) fun hkey =>
    absurd hkey (latestKey_ne_currentKey i bar.instrument bar.granularity)

/-- Taking a latest quote away adds nothing. -/
theorem LatestIs.clearLatest (h : q.LatestIs i P) (j : Instrument) :
    (q.clearLatest j).1.LatestIs i P := CacheLink.hasOnly_erase h (latestKey j)

/-- Asking for a latest quote adds nothing. -/
theorem LatestIs.latest (h : q.LatestIs i P) (now : Nat) (j : Instrument) :
    (q.latest now j).1.LatestIs i P := CacheLink.hasOnly_get? h now (latestKey j)

/-- On a cache that never fails nothing is left of a latest quote that is taken away. -/
theorem latestIs_clearLatest (h : q.link.NeverFails) (i : Instrument) (P : String → Prop) :
    (q.clearLatest i).1.LatestIs i P := h.hasOnly_erase (latestKey i) P

/-- On a cache that never fails, a latest quote is none or reads back from a text that the cache has
for the instrument. -/
theorem LatestIs.answer (h : q.LatestIs i P) (hnever : q.link.NeverFails) (now : Nat) :
    (q.latest now i).2 = .ok none ∨ ∃ text, P text ∧ (q.latest now i).2 = readBack text := by
  cases hget : q.link.cache.get? now (latestKey i) with
  | none =>
    refine Or.inl ?_
    simp only [QuoteCache.latest, fetch, CacheLink.get?, hnever.call_eq, hget]
  | some text =>
    obtain ⟨entry, hentry, rfl⟩ := Option.map_eq_some_iff.mp hget
    refine Or.inr ⟨entry.value, h entry (Option.filter_eq_some_iff.mp hentry).1, ?_⟩
    unfold readBack
    cases hread : (Json.read entry.value).bind Quote.ofJson? <;>
      simp only [QuoteCache.latest, fetch, CacheLink.get?, hnever.call_eq, hget, hread]

/-- Writing a quote leaves the calls that fail as they are. -/
theorem setLatest_failure (q : QuoteCache) (now : Nat) (quote : Quote) :
    (q.setLatest now quote).1.link.failure = q.link.failure :=
  q.link.set_failure now _ _ (some q.quoteTtl)

/-- Writing a bar in progress leaves the calls that fail as they are. -/
theorem setCurrent_failure (q : QuoteCache) (now : Nat) (bar : OpenBar) :
    (q.setCurrent now bar).1.link.failure = q.link.failure :=
  q.link.set_failure now _ _ (some q.barTtl)

/-- Taking a latest quote away leaves the calls that fail as they are. -/
theorem clearLatest_failure (q : QuoteCache) (i : Instrument) :
    (q.clearLatest i).1.link.failure = q.link.failure := q.link.erase_failure (latestKey i)

/-- Asking for a latest quote leaves the calls that fail as they are. -/
theorem latest_failure (q : QuoteCache) (now : Nat) (i : Instrument) :
    (q.latest now i).1.link.failure = q.link.failure := q.link.get?_failure now (latestKey i)

end QuoteCache

end CandleFeed

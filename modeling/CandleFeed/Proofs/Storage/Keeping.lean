import CandleFeed.Proofs.Market.Echoes
import CandleFeed.Proofs.Storage.Expiry
import CandleFeed.Proofs.Storage.QuoteCache

/-!
# What is written is read

A text that is given to a key is found there until its time is over (`CacheLink.get?_set`).  With
records that read back from their texts this gives **`QuoteCache.returns_written`**: a cache returns
the latest quote and the bar in progress as they were written, in every field, and ticks and final
bars survive being written and read.

Of a record's floating-point values this asks that they are finite and that their own texts read
back to them (`Json.Kept`).  Not every one does: the reader rounds twice, and a value that needs
seventeen digits may come back as its neighbour.  Points in time may lie in any year, though in no
leap second, and names may have any characters.
-/

namespace CandleFeed

/-- A length of time that began at an instant has an end, and the end has not come. -/
def Clock.Pending (now length t : Nat) : Prop :=
  ∃ deadline, deadline? now length = some deadline ∧ t < deadline

/-- A length of time whose end has not come has one on the clock. -/
theorem Clock.pending_iff {now length t : Nat} :
    Pending now length t ↔ now + length ≤ lastInstant ∧ t < now + length := by
  unfold Pending deadline?
  constructor
  · rintro ⟨deadline, hdeadline, ht⟩
    split at hdeadline
    · rename_i hroom
      obtain rfl := Option.some.inj hdeadline
      exact ⟨hroom, ht⟩
    · exact absurd hdeadline (by simp)
  · rintro ⟨hroom, ht⟩
    exact ⟨now + length, if_pos hroom, ht⟩

/-- The last instant is not before the end. -/
theorem Clock.Pending.hasRoom {now length t : Nat} (h : Pending now length t) :
    now + length ≤ lastInstant := (pending_iff.mp h).1

/-- A text is found under its key until its time is over. -/
theorem Cache.get?_set (c : Cache) {now ttl t : Nat} (h : Clock.Pending now ttl t)
    (key value : String) :
    (c.set now key value (some ttl)).2 = true ∧
      (c.set now key value (some ttl)).1.get? t key = some value := by
  obtain ⟨hroom, ht⟩ := Clock.pending_iff.mp h
  have hset := c.set_some_eq hroom key value
  constructor
  · rw [hset]
  · rw [hset, get?_eq_some_iff]
    refine ⟨⟨value, some (now + ttl)⟩, ?_, decide_eq_true ht, rfl⟩
    rw [Table.get?_insert, if_pos rfl]

namespace CacheLink

variable {l : CacheLink}

/-- A cache that never fails takes a text, if the end of its time exists. -/
theorem NeverFails.set_ok (h : l.NeverFails) {now ttl t : Nat} (hpending : Clock.Pending now ttl t)
    (key value : String) : (l.set now key value (some ttl)).2 = .ok () := by
  simp only [set, h.call_eq, (l.cache.get?_set hpending key value).1, if_true]

/-- **A cache that never fails has a text under its key until its time is over.** -/
theorem NeverFails.get?_set (h : l.NeverFails) {now ttl t : Nat}
    (hpending : Clock.Pending now ttl t) (key value : String) :
    ((l.set now key value (some ttl)).1.get? t key).2 = .ok (some value) := by
  have hnever : (l.set now key value (some ttl)).1.NeverFails := by
    unfold NeverFails
    rw [set_failure]
    exact h
  rw [CacheLink.get?, hnever.call_eq]
  simp only [set, h.call_eq, (l.cache.get?_set hpending key value).2]

end CacheLink

namespace QuoteCache

/-- What a cache has under a key is read as the record that its text denotes. -/
theorem fetch_eq {α : Type} {q : QuoteCache} {t : Nat} {key text : String}
    (hget : (q.link.get? t key).2 = .ok (some text)) {ofJson? : Json → Option α} {a : α}
    (hread : (Json.read text).bind ofJson? = some a) :
    (q.fetch t key ofJson?).2 = .ok (some a) := by
  simp only [fetch, hget, hread]

/-- A latest quote is returned as it was written. -/
theorem latest_setLatest {q : QuoteCache} (hnever : q.link.NeverFails) {now t : Nat}
    (hpending : Clock.Pending now q.quoteTtl t) {quote : Quote} (hquote : quote.Regular) :
    ((q.setLatest now quote).1.latest t quote.instrument).2 = .ok (some quote) :=
  fetch_eq (hnever.get?_set hpending _ _) (Json.readsBack hquote.plain_toJson hquote.ofJson?_toJson)

/-- A bar in progress is returned as it was written. -/
theorem current_setCurrent {q : QuoteCache} (hnever : q.link.NeverFails) {now t : Nat}
    (hpending : Clock.Pending now q.barTtl t) {bar : OpenBar} (hbar : bar.Regular) :
    ((q.setCurrent now bar).1.current t bar.instrument bar.granularity).2 = .ok (some bar) :=
  fetch_eq (hnever.get?_set hpending _ _) (Json.readsBack hbar.plain_toJson hbar.ofJson?_toJson)

/-- **What is written is read**: a cache that never fails takes a quote and returns it as the latest
one of its instrument until its time is over, it does the same with a bar in progress, and a tick
and a final bar are read from their texts. -/
theorem returns_written :
    (∀ quote : Quote, quote.Regular → ∀ (q : QuoteCache) (now t : Nat), q.link.NeverFails →
      Clock.Pending now q.quoteTtl t →
        (q.setLatest now quote).2 = .ok () ∧
          ((q.setLatest now quote).1.latest t quote.instrument).2 = .ok (some quote)) ∧
    (∀ bar : OpenBar, bar.Regular → ∀ (q : QuoteCache) (now t : Nat), q.link.NeverFails →
      Clock.Pending now q.barTtl t →
        (q.setCurrent now bar).2 = .ok () ∧
          ((q.setCurrent now bar).1.current t bar.instrument bar.granularity).2 =
            .ok (some bar)) ∧
    (∀ tick : Tick, tick.Regular → (Json.read tick.toJson.render).bind Tick.ofJson? = some tick) ∧
    ∀ bar : ClosedBar, bar.Regular →
      (Json.read bar.toJson.render).bind ClosedBar.ofJson? = some bar := by
  refine ⟨?latest, ?current, ?tick, ?closed⟩
  case latest =>
    intro quote hquote q now t hnever hpending
    exact ⟨hnever.set_ok hpending _ _, latest_setLatest hnever hpending hquote⟩
  case current =>
    intro bar hbar q now t hnever hpending
    exact ⟨hnever.set_ok hpending _ _, current_setCurrent hnever hpending hbar⟩
  case tick => exact fun tick h => Json.readsBack h.plain_toJson h.ofJson?_toJson
  case closed => exact fun bar h => Json.readsBack h.plain_toJson h.ofJson?_toJson

/-! ## An instrument with a strange name

Its symbol has a quote, a backslash, a colon, a control character and a letter that becomes two in
upper case, and its records begin with the first year. -/

/-- Made from ` börse` and a symbol in small letters, with a blank after it. -/
def strange : Instrument := ⟨"BÖRSE", "A\"\\:\x01SS", by decide, by decide, by decide⟩

/-- The end of the first second of the first year. -/
def dawn : Timestamp := ⟨-8334601228800, 999999999, by decide, by decide, by decide⟩

/-- A quote without a price asked. -/
def strangeQuote : Quote :=
  ⟨strange, dawn, 178.92, some (-0.0), none, some 1e300, some 0.1, none, none, none, none, none⟩

/-- Prices, one of them below zero, and a volume of three hundred digits. -/
def strangeOhlcv : Ohlcv := ⟨178.92, 179.5, -0.25, 0.1, 1e300⟩

/-- A bar in progress with the highest count. -/
def strangeOpen : OpenBar := ⟨strange, .month1, dawn, .epoch, strangeOhlcv, 18446744073709551615⟩

/-- A bar that was closed because nobody wanted more of it. -/
def strangeClosed : ClosedBar := ⟨strange, .month1, dawn, strangeOhlcv, 3, .unsubscribe⟩

theorem canonical_strange : strange.Canonical :=
  ⟨" börse", "a\"\\:\x01ß\t", by decide +kernel⟩

theorem regular_strangeQuote : strangeQuote.Regular where
  instrument := canonical_strange
  timestamp := by decide
  lastPrice := by decide +kernel
  extras := by decide +kernel

theorem regular_strangeOhlcv : strangeOhlcv.Regular := by
  constructor <;> decide +kernel

theorem regular_strangeOpen : strangeOpen.Regular where
  instrument := canonical_strange
  bucketStart := by decide
  bucketEnd := by decide
  ohlcv := regular_strangeOhlcv
  tickCount := by decide

theorem regular_strangeTick : strangeQuote.tick.Regular where
  instrument := canonical_strange
  price := by decide +kernel
  volume := by decide +kernel
  timestamp := by decide

theorem regular_strangeClosed : strangeClosed.Regular where
  instrument := canonical_strange
  bucketStart := by decide
  ohlcv := regular_strangeOhlcv
  tickCount := by decide

/-- A cache with nothing in it, whose entries live as long as usual. -/
def freshCache : QuoteCache := standard .reliable

theorem returns_written_strange :
    strangeQuote.Regular ∧ strangeOpen.Regular ∧ strangeQuote.tick.Regular ∧
      strangeClosed.Regular ∧ freshCache.link.NeverFails ∧
      Clock.Pending 5 freshCache.quoteTtl 60000000004 ∧
      Clock.Pending 5 freshCache.barTtl 300000000004 ∧
      ((freshCache.setLatest 5 strangeQuote).2 = .ok () ∧
        ((freshCache.setLatest 5 strangeQuote).1.latest 60000000004 strange).2 =
          .ok (some strangeQuote)) ∧
      ((freshCache.setCurrent 5 strangeOpen).2 = .ok () ∧
        ((freshCache.setCurrent 5 strangeOpen).1.current 300000000004 strange .month1).2 =
          .ok (some strangeOpen)) ∧
      (Json.read strangeQuote.tick.toJson.render).bind Tick.ofJson? = some strangeQuote.tick ∧
      (Json.read strangeClosed.toJson.render).bind ClosedBar.ofJson? = some strangeClosed := by
  have hnever : freshCache.link.NeverFails := fun _ => rfl
  have hquote : Clock.Pending 5 freshCache.quoteTtl 60000000004 := ⟨_, rfl, by decide⟩
  have hbar : Clock.Pending 5 freshCache.barTtl 300000000004 := ⟨_, rfl, by decide⟩
  obtain ⟨hlatest, hcurrent, htick, hclosed⟩ := returns_written
  exact ⟨regular_strangeQuote, regular_strangeOpen, regular_strangeTick, regular_strangeClosed,
    hnever, hquote, hbar, hlatest _ regular_strangeQuote _ _ _ hnever hquote,
    hcurrent _ regular_strangeOpen _ _ _ hnever hbar, htick _ regular_strangeTick,
    hclosed _ regular_strangeClosed⟩

end QuoteCache

end CandleFeed

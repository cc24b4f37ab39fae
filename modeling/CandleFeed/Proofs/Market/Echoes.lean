import CandleFeed.Proofs.Market.Records

/-!
# Which records read back

The text of a record's JSON form always reads as some JSON value, its echo.  Whether the echo is
read as the record again, its numbers decide: **`OpenBar.ofJson?_echo_iff`** and
**`Quote.ofJson?_echo_iff`** say that it is exactly if every floating-point value of the record
reads back from its own text, and 64 bits hold the count.  If one of a bar's values is no finite
number, the echo is read as no bar at all (`OpenBar.ofJson?_echo_eq_none`): the value is written as
null, and a bar has no value that may be missing.

So regular records are read from their JSON forms (**`Regular.ofJson?_toJson`**), and since these
are plain, from the texts of these (`Json.readsBack`).
-/

namespace CandleFeed

/-! ## Values of fields -/

namespace Json

/-- A floating-point value reads back exactly if its own text reads back to it. -/
theorem float?_echo_iff (x : Float) : (echo (ofFloat x)).float? = some x ↔ Kept x := by
  unfold Kept
  rw [echo_float_eq_iff]
  unfold ofFloat
  by_cases hfinite : x.isFinite = true
  · simp only [hfinite, if_true, true_and]
    -- the text has a fraction or an exponent, so that it denotes no whole number
    obtain ⟨v, hreads, hv⟩ := exists_reads_floatText x
    rw [echo, if_pos hfinite, denoted_of_reads hreads]
    rcases hv with ⟨y, rfl⟩ | rfl
    · simp [float?]
    · simp [float?]
  · simp [hfinite, echo, float?]

/-- A value that is not finite reads back as no number. -/
theorem float?_echo_eq_none {x : Float} (h : x.isFinite = false) :
    (echo (ofFloat x)).float? = none := by
  simp [ofFloat, h, echo, float?]

/-- What may be absent reads back exactly if it is absent or reads back. -/
theorem optional_echo_iff (o : Option Float) :
    optional float? (some (echo (ofOption ofFloat o))) = some o ↔ ∀ x ∈ o, Kept x := by
  cases o with
  | none => simp [ofOption, echo, optional]
  | some x =>
    have hiff := float?_echo_iff x
    simp only [ofOption, Option.mem_some_iff, forall_eq']
    rw [← hiff]
    unfold optional
    split
    · exact absurd ‹_› (by simp)
    · rename_i hnull
      rw [Option.some.inj hnull]
      simp [float?]
    · rename_i v _ hv
      rw [← Option.some.inj hv]
      simp

/-- A count reads back exactly if 64 bits hold it. -/
theorem nat?_echo_iff (n : Nat) : (echo (ofInt n)).nat? = some n ↔ n < Nat.pow 2 64 := by
  constructor
  · intro h
    by_contra hlarge
    have hholds : holds64 n = false := by
      simp only [holds64, Bool.and_eq_false_iff, decide_eq_false_iff_not]
      omega
    obtain ⟨v, hreads, hv⟩ := exists_reads_floatText (Float.ofInt n)
    simp only [ofInt, hholds, Bool.false_eq_true, if_false, echo, denoted_of_reads hreads] at h
    split at h
    · rcases hv with ⟨y, rfl⟩ | rfl <;> exact absurd h (by simp [nat?])
    · exact absurd h (by simp [nat?])
  · intro h
    rw [(plain_ofInt h).echo_eq, nat?_ofInt h]

/-- **The echo of an object of all the fields has the echo of each value.** -/
theorem fields_echo_zip (names : List String) (vs : List Json) (hnodup : names.Nodup)
    (hlength : names.length = vs.length) :
    fields names 0 (echo (.obj (names.zip vs))) = some (vs.map fun v => some (echo v)) := by
  have hecho : echo (.obj (names.zip vs)) = .obj (names.zip (vs.map echo)) := by
    rw [echo, echoMembers_eq, List.zip_map_right]
    rfl
  rw [hecho, fields_zip names _ hnodup (by rw [List.length_map, hlength]), List.map_map]
  rfl

end Json

open Json

/-- **A record is read from the text of its JSON form**, if that form is plain and denotes it. -/
theorem Json.readsBack {α : Type} {v : Json} {ofJson? : Json → Option α} {a : α} (hplain : Plain v)
    (h : ofJson? v = some a) : (read (render v)).bind ofJson? = some a := by
  rw [read_render hplain, Option.bind_some, h]

/-! ## Bars -/

namespace Ohlcv

/-- What the echo of prices and volume is read as. -/
theorem ofJson?_echo (o : Ohlcv) :
    ofJson? (echo o.toJson) = (do
      return {
        opening := ← (echo (.ofFloat o.opening)).float?
        high := ← (echo (.ofFloat o.high)).float?
        low := ← (echo (.ofFloat o.low)).float?
        closing := ← (echo (.ofFloat o.closing)).float?
        volume := ← (echo (.ofFloat o.volume)).float? }) := by
  have hfields := fields_echo_zip ["open", "high", "low", "close", "volume"]
    [.ofFloat o.opening, .ofFloat o.high, .ofFloat o.low, .ofFloat o.closing,
      .ofFloat o.volume] (by decide) rfl
  simp only [List.zip_cons_cons, List.zip_nil_right, List.map_cons, List.map_nil] at hfields
  simp only [ofJson?, toJson, hfields, Option.bind_eq_bind, Option.bind_some, required_some]

/-- **Prices and volume read back exactly if each reads back from its own text.** -/
theorem ofJson?_echo_iff (o : Ohlcv) : ofJson? (echo o.toJson) = some o ↔ o.Regular := by
  rw [ofJson?_echo]
  obtain ⟨opening, high, low, closing, volume⟩ := o
  simp only [Option.bind_eq_bind, Option.bind_eq_some_iff, Option.pure_def, Option.some.injEq,
    Ohlcv.mk.injEq]
  constructor
  · rintro ⟨_, hopening, _, hhigh, _, hlow, _, hclosing, _, hvolume, rfl, rfl, rfl, rfl, rfl⟩
    exact ⟨(float?_echo_iff _).mp hopening, (float?_echo_iff _).mp hhigh,
      (float?_echo_iff _).mp hlow, (float?_echo_iff _).mp hclosing, (float?_echo_iff _).mp hvolume⟩
  · intro h
    exact ⟨_, (float?_echo_iff _).mpr h.opening, _, (float?_echo_iff _).mpr h.high, _,
      (float?_echo_iff _).mpr h.low, _, (float?_echo_iff _).mpr h.closing, _,
      (float?_echo_iff _).mpr h.volume, rfl, rfl, rfl, rfl, rfl⟩

theorem Regular.ofJson?_toJson {o : Ohlcv} (h : o.Regular) : Ohlcv.ofJson? o.toJson = some o := by
  have hread := (ofJson?_echo_iff o).mpr h
  rwa [h.plain_toJson.echo_eq] at hread

/-- All values are finite. -/
structure Finite (o : Ohlcv) : Prop where
  opening : o.opening.isFinite = true
  high : o.high.isFinite = true
  low : o.low.isFinite = true
  closing : o.closing.isFinite = true
  volume : o.volume.isFinite = true

/-- Prices and volume are read as nothing if one of them is not finite. -/
theorem ofJson?_echo_eq_none {o : Ohlcv} (h : ¬ o.Finite) : ofJson? (echo o.toJson) = none := by
  by_contra hsome
  obtain ⟨o', ho'⟩ := Option.ne_none_iff_exists'.mp hsome
  have hfinite : ∀ x y : Float, (echo (.ofFloat x)).float? = some y → x.isFinite = true := by
    intro x y hxy
    by_contra hnot
    rw [float?_echo_eq_none (Bool.not_eq_true _ ▸ hnot)] at hxy
    exact absurd hxy (by simp)
  rw [ofJson?_echo] at ho'
  simp only [Option.bind_eq_bind, Option.bind_eq_some_iff] at ho'
  obtain ⟨_, hopening, _, hhigh, _, hlow, _, hclosing, _, hvolume, -⟩ := ho'
  exact h ⟨hfinite _ _ hopening, hfinite _ _ hhigh, hfinite _ _ hlow, hfinite _ _ hclosing,
    hfinite _ _ hvolume⟩

end Ohlcv

namespace OpenBar

/-- What the echo of a bar in progress is read as, if its names and times are regular. -/
theorem ofJson?_echo {b : OpenBar} (hinstrument : b.instrument.Canonical)
    (hstart : b.bucketStart.nanos < nanosPerSecond) (hend : b.bucketEnd.nanos < nanosPerSecond) :
    ofJson? (echo b.toJson) = (do
      return { b with
        ohlcv := ← Ohlcv.ofJson? (echo b.ohlcv.toJson)
        tickCount := ← (echo (.ofInt b.tickCount)).nat? }) := by
  have hfields := fields_echo_zip
    ["instrument", "granularity", "bucket_start", "bucket_end", "ohlcv", "tick_count"]
    [b.instrument.toJson, b.granularity.toJson, b.bucketStart.toJson, b.bucketEnd.toJson,
      b.ohlcv.toJson, .ofInt b.tickCount] (by decide) (by simp)
  have hgranularity : echo b.granularity.toJson = b.granularity.toJson := rfl
  have hstart' : echo b.bucketStart.toJson = b.bucketStart.toJson := rfl
  have hend' : echo b.bucketEnd.toJson = b.bucketEnd.toJson := rfl
  simp only [List.zip_cons_cons, List.zip_nil_right, List.map_cons, List.map_nil,
    b.instrument.plain_toJson.echo_eq, hgranularity, hstart', hend'] at hfields
  simp only [ofJson?, toJson, hfields, Option.bind_eq_bind, Option.bind_some, required_some,
    hinstrument.ofJson?_toJson, Granularity.ofJson?_toJson, Timestamp.ofJson?_toJson hstart,
    Timestamp.ofJson?_toJson hend]

/-- **A bar in progress reads back exactly if its values do and 64 bits hold its count.** -/
theorem ofJson?_echo_iff {b : OpenBar} (hinstrument : b.instrument.Canonical)
    (hstart : b.bucketStart.nanos < nanosPerSecond) (hend : b.bucketEnd.nanos < nanosPerSecond) :
    ofJson? (echo b.toJson) = some b ↔ b.ohlcv.Regular ∧ b.tickCount < Nat.pow 2 64 := by
  rw [ofJson?_echo hinstrument hstart hend, ← Ohlcv.ofJson?_echo_iff, ← nat?_echo_iff]
  obtain ⟨i, g, bucketStart, bucketEnd, ohlcv, tickCount⟩ := b
  simp only [Option.bind_eq_bind, Option.bind_eq_some_iff, Option.pure_def, Option.some.injEq,
    OpenBar.mk.injEq, true_and]
  constructor
  · rintro ⟨_, hohlcv, _, hcount, rfl, rfl⟩
    exact ⟨hohlcv, hcount⟩
  · rintro ⟨hohlcv, hcount⟩
    exact ⟨_, hohlcv, _, hcount, rfl, rfl⟩

theorem Regular.ofJson?_toJson {b : OpenBar} (h : b.Regular) :
    OpenBar.ofJson? b.toJson = some b := by
  have hread := (ofJson?_echo_iff h.instrument h.bucketStart h.bucketEnd).mpr
    ⟨h.ohlcv, h.tickCount⟩
  rwa [h.plain_toJson.echo_eq] at hread

/-- A bar in progress is read as nothing if one of its values is not finite. -/
theorem ofJson?_echo_eq_none {b : OpenBar} (hinstrument : b.instrument.Canonical)
    (hstart : b.bucketStart.nanos < nanosPerSecond) (hend : b.bucketEnd.nanos < nanosPerSecond)
    (h : ¬ b.ohlcv.Finite) : ofJson? (echo b.toJson) = none := by
  rw [ofJson?_echo hinstrument hstart hend, Ohlcv.ofJson?_echo_eq_none h]
  rfl

end OpenBar

theorem ClosedBar.Regular.ofJson?_toJson {b : ClosedBar} (h : b.Regular) :
    ClosedBar.ofJson? b.toJson = some b := by
  have hfields := fields_zip
    ["instrument", "granularity", "bucket_start", "ohlcv", "tick_count", "reason"]
    [b.instrument.toJson, b.granularity.toJson, b.bucketStart.toJson, b.ohlcv.toJson,
      .ofInt b.tickCount, b.reason.toJson] (by decide) (by simp)
  simp only [List.zip_cons_cons, List.zip_nil_right, List.map_cons, List.map_nil] at hfields
  simp only [ClosedBar.ofJson?, ClosedBar.toJson, hfields, Option.bind_eq_bind, Option.bind_some,
    required_some, h.instrument.ofJson?_toJson, Granularity.ofJson?_toJson,
    Timestamp.ofJson?_toJson h.bucketStart, h.ohlcv.ofJson?_toJson, nat?_ofInt h.tickCount,
    CloseReason.ofJson?_toJson]
  rfl

/-! ## Ticks and quotes -/

namespace Quote

/-- All values of a quote read back from their own texts, and so does its time. -/
structure ReadsBack (q : Quote) : Prop where
  timestamp : Timestamp.ofJson? q.timestamp.toJson = some q.timestamp
  lastPrice : Kept q.lastPrice
  extras : ∀ o ∈ q.extras, ∀ x ∈ o, Kept x

/-- What the echo of a quote is read as, if its name is regular. -/
theorem ofJson?_echo {q : Quote} (hinstrument : q.instrument.Canonical) :
    ofJson? (echo q.toJson) = (do
      return { q with
        timestamp := ← Timestamp.ofJson? q.timestamp.toJson
        lastPrice := ← (echo (ofFloat q.lastPrice)).float?
        bid := ← optional float? (some (echo (ofOption ofFloat q.bid)))
        ask := ← optional float? (some (echo (ofOption ofFloat q.ask)))
        volume := ← optional float? (some (echo (ofOption ofFloat q.volume)))
        change := ← optional float? (some (echo (ofOption ofFloat q.change)))
        changePercent := ← optional float? (some (echo (ofOption ofFloat q.changePercent)))
        openPrice := ← optional float? (some (echo (ofOption ofFloat q.openPrice)))
        highPrice := ← optional float? (some (echo (ofOption ofFloat q.highPrice)))
        lowPrice := ← optional float? (some (echo (ofOption ofFloat q.lowPrice)))
        prevClose := ← optional float? (some (echo (ofOption ofFloat q.prevClose))) }) := by
  have hfields : fields fieldNames 0 (echo q.toJson) =
      some ([echo q.instrument.toJson, echo q.timestamp.toJson,
        echo (.ofFloat q.lastPrice)].map some ++
          q.extras.map fun o => some (echo (ofOption ofFloat o))) :=
    fields_echo_zip fieldNames _ (by decide) rfl
  have hecho : echo q.timestamp.toJson = q.timestamp.toJson := rfl
  have hname : required Instrument.ofJson? (some q.instrument.toJson) = some q.instrument := by
    rw [required_some, hinstrument.ofJson?_toJson]
  simp only [Quote.extras, List.map_cons, List.map_nil, List.cons_append, List.nil_append,
    q.instrument.plain_toJson.echo_eq, hecho] at hfields
  unfold ofJson?
  rw [hfields, Option.bind_eq_bind, Option.bind_some]
  simp only
  rw [hname, Option.bind_eq_bind, Option.bind_some, required_some, required_some]

/-- **A quote reads back exactly if all of its values do.** -/
theorem ofJson?_echo_iff {q : Quote} (hinstrument : q.instrument.Canonical) :
    ofJson? (echo q.toJson) = some q ↔ q.ReadsBack := by
  have hparts : q.ReadsBack ↔ Timestamp.ofJson? q.timestamp.toJson = some q.timestamp ∧
      (echo (ofFloat q.lastPrice)).float? = some q.lastPrice ∧
      ∀ o ∈ q.extras, optional float? (some (echo (ofOption ofFloat o))) = some o := by
    simp only [float?_echo_iff, optional_echo_iff]
    exact ⟨fun h => ⟨h.timestamp, h.lastPrice, h.extras⟩, fun h => ⟨h.1, h.2.1, h.2.2⟩⟩
  rw [hparts, ofJson?_echo hinstrument]
  simp only [Quote.extras, List.forall_mem_cons]
  obtain ⟨i, timestamp, lastPrice, bid, ask, volume, change, changePercent, openPrice, highPrice,
    lowPrice, prevClose⟩ := q
  simp only [Option.bind_eq_bind, Option.bind_eq_some_iff, Option.pure_def, Option.some.injEq,
    Quote.mk.injEq, true_and]
  constructor
  · rintro ⟨_, htime, _, hlast, _, hbid, _, hask, _, hvolume, _, hchange, _, hpercent, _, hopen, _,
      hhigh, _, hlow, _, hclose, rfl, rfl, rfl, rfl, rfl, rfl, rfl, rfl, rfl, rfl, rfl⟩
    exact ⟨htime, hlast, hbid, hask, hvolume, hchange, hpercent, hopen, hhigh, hlow, hclose,
      List.forall_mem_nil _⟩
  · rintro ⟨htime, hlast, hbid, hask, hvolume, hchange, hpercent, hopen, hhigh, hlow, hclose, -⟩
    exact ⟨_, htime, _, hlast, _, hbid, _, hask, _, hvolume, _, hchange, _, hpercent, _, hopen, _,
      hhigh, _, hlow, _, hclose, rfl, rfl, rfl, rfl, rfl, rfl, rfl, rfl, rfl, rfl, rfl⟩

theorem Regular.ofJson?_toJson {q : Quote} (h : q.Regular) : Quote.ofJson? q.toJson = some q := by
  have hread := (ofJson?_echo_iff h.instrument).mpr
    ⟨Timestamp.ofJson?_toJson h.timestamp, h.lastPrice, h.extras⟩
  rwa [h.plain_toJson.echo_eq] at hread

end Quote

theorem Tick.Regular.ofJson?_toJson {t : Tick} (h : t.Regular) : Tick.ofJson? t.toJson = some t := by
  have hfields := fields_zip ["instrument", "price", "volume", "timestamp"]
    [t.instrument.toJson, .ofFloat t.price, .ofOption .ofFloat t.volume,
      t.timestamp.toJson] (by decide) rfl
  simp only [List.zip_cons_cons, List.zip_nil_right, List.map_cons, List.map_nil] at hfields
  simp only [Tick.ofJson?, Tick.toJson, hfields, Option.bind_eq_bind, Option.bind_some,
    required_some, h.instrument.ofJson?_toJson, float?_ofFloat h.price, optional_ofOption h.volume,
    Timestamp.ofJson?_toJson h.timestamp]
  rfl

end CandleFeed

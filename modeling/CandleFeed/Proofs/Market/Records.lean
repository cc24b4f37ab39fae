import CandleFeed.Market.Records
import CandleFeed.Proofs.Calendar.Rfc3339
import CandleFeed.Proofs.Json.RoundTrip
import CandleFeed.Proofs.Market.Instrument

/-!
# Regular records

A record is **`Regular`** if its instrument was built from two parts, its points in time lie in no
leap second, its prices and volumes read back from their own texts, and its count fits 64 bits.
Then its JSON form is plain (`plain_toJson`).

A record is read field by field.  An object of all the fields in their order has the value of each
(`Json.fields_zip`), what is absent is null, and an instrument is made canonical again without a
change (**`Instrument.Canonical.ofJson?_toJson`**).
-/

namespace CandleFeed

open Json (Kept Plain required optional)

namespace Json

/-- Only the member with a name counts for it. -/
theorem filterMap_member {n : String} {v : Json} {ms : List (String × Json)}
    (hnodup : (ms.map Prod.fst).Nodup) (h : (n, v) ∈ ms) :
    (ms.filterMap fun m => if m.1 == n then some m.2 else none) = [v] := by
  induction ms with
  | nil => exact absurd h List.not_mem_nil
  | cons m ms ih =>
    obtain ⟨hm, hms⟩ := List.nodup_cons.mp hnodup
    have hnone : ∀ k, k ∉ ms.map Prod.fst →
        (ms.filterMap fun m => if m.1 == k then some m.2 else none) = [] := by
      intro k hk
      refine List.filterMap_eq_nil_iff.mpr fun m' hm' => if_neg fun heq => hk ?_
      exact eq_of_beq heq ▸ List.mem_map_of_mem hm'
    rcases List.mem_cons.mp h with rfl | hmem
    · rw [List.filterMap_cons_some (b := v) (by simp), hnone n hm]
    · have hne : m.1 ≠ n := by
        rintro rfl
        exact hm (List.mem_map.mpr ⟨_, hmem, rfl⟩)
      rw [List.filterMap_cons_none (by simp [hne]), ih hms hmem]

/-- An object with each member once has the value of every field. -/
theorem fields_obj (ms : List (String × Json)) (hnodup : (ms.map Prod.fst).Nodup) :
    fields (ms.map Prod.fst) 0 (.obj ms) = some (ms.map fun m => some m.2) := by
  have hvalues : ((ms.map Prod.fst).map fun n =>
      ms.filterMap fun m => if m.1 == n then some m.2 else none) = ms.map fun m => [m.2] := by
    rw [List.map_map]
    exact List.map_congr_left fun m hm => filterMap_member hnodup hm
  have hsingle : ((ms.map fun m => [m.2]).any fun vs => decide (1 < vs.length)) = false := by
    rw [List.any_eq_false]
    intro vs hvs
    obtain ⟨m, -, rfl⟩ := List.mem_map.mp hvs
    simp
  simp only [fields, hvalues, hsingle, Bool.false_eq_true, if_false, List.map_map]
  rfl

/-- **An object of all the fields, in their order, has the value of each.** -/
theorem fields_zip (names : List String) (vs : List Json) (hnodup : names.Nodup)
    (hlength : names.length = vs.length) :
    fields names 0 (.obj (names.zip vs)) = some (vs.map some) := by
  have hnames : (names.zip vs).map Prod.fst = names :=
    List.map_fst_zip (Nat.le_of_eq hlength)
  have hvs : (names.zip vs).map Prod.snd = vs := List.map_snd_zip (Nat.le_of_eq hlength.symm)
  have hfields := fields_obj (names.zip vs) (hnames.symm ▸ hnodup)
  rw [hnames] at hfields
  rw [hfields, ← congrArg (List.map some) hvs, List.map_map]
  rfl

theorem plain_zip {names : List String} {vs : List Json} (h : ∀ v ∈ vs, Plain v) :
    Plain (.obj (names.zip vs)) :=
  .obj _ fun m hm => h m.2 (List.of_mem_zip hm).2

/-! ## Values of fields -/

@[simp] theorem required_some {α : Type} (read : Json → Option α) (v : Json) :
    required read (some v) = read v := by
  -- a step of rewriting, so that no value is computed where it is used
  rw [required, Option.bind_some]

/-- A value that its own text reads back to is written as a number. -/
theorem ofFloat_of_kept {x : Float} (h : Kept x) : ofFloat x = .float x := if_pos h.1

theorem plain_ofFloat {x : Float} (h : Kept x) : Plain (ofFloat x) := by
  rw [ofFloat_of_kept h]
  exact .float x h

theorem float?_ofFloat {x : Float} (h : Kept x) : (ofFloat x).float? = some x := by
  rw [ofFloat_of_kept h]
  rfl

theorem plain_ofOption {o : Option Float} (h : ∀ x ∈ o, Kept x) : Plain (ofOption ofFloat o) := by
  cases o with
  | none => exact .null
  | some x => exact plain_ofFloat (h x rfl)

/-- What is absent is null, and null is absent. -/
theorem optional_ofOption {o : Option Float} (h : ∀ x ∈ o, Kept x) :
    optional float? (some (ofOption ofFloat o)) = some o := by
  cases o with
  | none => rfl
  | some x =>
    rw [ofOption, ofFloat_of_kept (h x rfl)]
    rfl

/-- A count that 64 bits hold is written as a whole number. -/
theorem ofInt_of_lt {n : Nat} (h : n < Nat.pow 2 64) :
    ofInt n = .int n ∧ holds64 n = true := by
  have hholds : holds64 n = true := by
    simp only [holds64, Bool.and_eq_true, decide_eq_true_eq]
    omega
  exact ⟨if_pos hholds, hholds⟩

theorem plain_ofInt {n : Nat} (h : n < Nat.pow 2 64) : Plain (ofInt n) := by
  rw [(ofInt_of_lt h).1]
  exact .int _ (ofInt_of_lt h).2

theorem nat?_ofInt {n : Nat} (h : n < Nat.pow 2 64) : (ofInt n).nat? = some n := by
  rw [(ofInt_of_lt h).1]
  simp [nat?]

end Json

open Json

/-! ## Parts of records -/

theorem Timestamp.ofJson?_toJson {t : Timestamp} (h : t.nanos < nanosPerSecond) :
    Timestamp.ofJson? t.toJson = some t := by
  have hread : Timestamp.ofJson? t.toJson = Rfc3339.read (Rfc3339.write t) := by
    simp only [Timestamp.ofJson?, Timestamp.toJson, text?, Option.bind_some, String.toList_ofList]
  rw [hread, Rfc3339.read_write h]

theorem Instrument.plain_toJson (i : Instrument) : Plain i.toJson :=
  .obj _ (List.forall_mem_cons.mpr ⟨.str _, List.forall_mem_cons.mpr ⟨.str _, nofun⟩⟩)

/-- **A canonical instrument is read from what it is written as.** -/
theorem Instrument.Canonical.ofJson?_toJson {i : Instrument} (h : i.Canonical) :
    Instrument.ofJson? i.toJson = some i := by
  have hfields : fields ["exchange", "symbol"] 0 i.toJson =
      some [some (.str i.exchange), some (.str i.symbol)] :=
    fields_zip ["exchange", "symbol"] [.str i.exchange, .str i.symbol] (by decide) rfl
  simp only [Instrument.ofJson?, hfields, Option.bind_eq_bind, Option.bind_some, required_some,
    text?, h.make_parts]
  rfl

theorem Granularity.ofJson?_toJson (g : Granularity) : Granularity.ofJson? g.toJson = some g := by
  cases g <;> rfl

theorem CloseReason.ofJson?_toJson (r : CloseReason) : CloseReason.ofJson? r.toJson = some r := by
  cases r <;> rfl

namespace Ohlcv

/-- The prices and the volume read back from their own texts. -/
structure Regular (o : Ohlcv) : Prop where
  opening : Kept o.opening
  high : Kept o.high
  low : Kept o.low
  closing : Kept o.closing
  volume : Kept o.volume

theorem Regular.plain_toJson {o : Ohlcv} (h : o.Regular) : Plain o.toJson := by
  refine .obj _ ?_
  simp only [List.forall_mem_cons]
  exact ⟨plain_ofFloat h.opening, plain_ofFloat h.high, plain_ofFloat h.low,
    plain_ofFloat h.closing, plain_ofFloat h.volume, nofun⟩

end Ohlcv

/-! ## Ticks and quotes -/

namespace Tick

/-- The instrument was built from two parts, price and volume read back from their own texts, and
the time lies in no leap second. -/
structure Regular (t : Tick) : Prop where
  instrument : t.instrument.Canonical
  price : Kept t.price
  volume : ∀ x ∈ t.volume, Kept x
  timestamp : t.timestamp.nanos < nanosPerSecond

theorem Regular.plain_toJson {t : Tick} (h : t.Regular) : Plain t.toJson := by
  refine .obj _ ?_
  simp only [List.forall_mem_cons]
  exact ⟨t.instrument.plain_toJson, plain_ofFloat h.price, plain_ofOption h.volume, .str _, nofun⟩

end Tick

namespace Quote

/-- What a quote may say besides the last price. -/
def extras (q : Quote) : List (Option Float) :=
  [q.bid, q.ask, q.volume, q.change, q.changePercent, q.openPrice, q.highPrice, q.lowPrice,
    q.prevClose]

/-- The instrument was built from two parts, all prices and the volume read back from their own
texts, and the time lies in no leap second. -/
structure Regular (q : Quote) : Prop where
  instrument : q.instrument.Canonical
  timestamp : q.timestamp.nanos < nanosPerSecond
  lastPrice : Kept q.lastPrice
  extras : ∀ o ∈ q.extras, ∀ x ∈ o, Kept x

theorem Regular.plain_toJson {q : Quote} (h : q.Regular) : Plain q.toJson := by
  refine plain_zip ?_
  have hextras : ∀ v ∈ q.extras.map (ofOption ofFloat), Plain v := by
    intro v hv
    obtain ⟨o, ho, rfl⟩ := List.mem_map.mp hv
    exact plain_ofOption (h.extras o ho)
  exact List.forall_mem_cons.mpr ⟨q.instrument.plain_toJson, List.forall_mem_cons.mpr
    ⟨.str _, List.forall_mem_cons.mpr ⟨plain_ofFloat h.lastPrice, hextras⟩⟩⟩

end Quote

/-! ## Bars -/

namespace OpenBar

/-- The instrument was built from two parts, prices and volume read back from their own texts, the
bucket begins and ends in no leap second, and 64 bits hold the count. -/
structure Regular (b : OpenBar) : Prop where
  instrument : b.instrument.Canonical
  bucketStart : b.bucketStart.nanos < nanosPerSecond
  bucketEnd : b.bucketEnd.nanos < nanosPerSecond
  ohlcv : b.ohlcv.Regular
  tickCount : b.tickCount < Nat.pow 2 64

theorem Regular.plain_toJson {b : OpenBar} (h : b.Regular) : Plain b.toJson := by
  refine .obj _ ?_
  simp only [List.forall_mem_cons]
  exact ⟨b.instrument.plain_toJson, .str _, .str _, .str _, h.ohlcv.plain_toJson,
    plain_ofInt h.tickCount, nofun⟩

end OpenBar

namespace ClosedBar

/-- The instrument was built from two parts, prices and volume read back from their own texts, the
bucket begins in no leap second, and 64 bits hold the count. -/
structure Regular (b : ClosedBar) : Prop where
  instrument : b.instrument.Canonical
  bucketStart : b.bucketStart.nanos < nanosPerSecond
  ohlcv : b.ohlcv.Regular
  tickCount : b.tickCount < Nat.pow 2 64

theorem Regular.plain_toJson {b : ClosedBar} (h : b.Regular) : Plain b.toJson := by
  refine .obj _ ?_
  simp only [List.forall_mem_cons]
  exact ⟨b.instrument.plain_toJson, .str _, .str _, h.ohlcv.plain_toJson,
    plain_ofInt h.tickCount, .str _, nofun⟩

end ClosedBar

end CandleFeed

import CandleFeed.Proofs.Dispatch.Isolation

/-!
# What a payload is judged to be

A payload is judged by what it says alone, the first fault in a fixed order deciding: it may be no
message, be addressed to another session, have no last price or name no instrument, or name one that
is not subscribed.  Each fault has a description here that mentions no other part of the path
(`Message.Malformed`, `Message.Carries`), and one without faults is **`TickPath.Genuine`**.

**`TickPath.dispatch_judged`** is the table: every outcome with the payloads that have it, what each
leaves behind and what it counts.  A genuine payload is taken unless a cache entry would outlive the
clock, and where it does, the tick has been counted but is not reported
(**`TickPath.dispatch_genuineUnreported`**).
-/

namespace CandleFeed

/-! ## Counts -/

namespace Metrics

/-- A counter is one more each time it is counted, and others do not move. -/
theorem get_count (m : Metrics) (counted c : Counter) :
    (m.count counted).get c = m.get c + if counted = c then 1 else 0 := by
  unfold get count
  simp only [Table.get?_insert]
  split
  · rename_i h
    subst h
    rfl
  · rfl

/-- A counter moves as often as it is counted. -/
theorem get_countAll (m : Metrics) (cs : List Counter) (c : Counter) :
    (m.countAll cs).get c = m.get c + cs.count c := by
  induction cs generalizing m with
  | nil => rfl
  | cons counted cs ih =>
    have hrest : (m.countAll (counted :: cs)).get c = (m.count counted).get c + cs.count c :=
      ih (m.count counted)
    rw [hrest, get_count, List.count_cons, Nat.add_assoc, Nat.add_comm (cs.count c)]
    simp only [beq_iff_eq]

end Metrics

/-! ## Payloads -/

namespace QuoteUpdate

/-- The update has a last price, and its name is that of an instrument. -/
def Prices (u : QuoteUpdate) (i : Instrument) : Prop :=
  u.values.lastPrice ≠ none ∧ Instrument.parse u.name = .ok i

/-- Such updates are those that amount to a quote. -/
theorem prices_iff (u : QuoteUpdate) (receivedAt : Timestamp) (i : Instrument) :
    u.Prices i ↔ ∃ quote, u.quote? receivedAt = some quote ∧ quote.instrument = i := by
  unfold Prices quote?
  cases u.values.lastPrice with
  | none => simp
  | some price => cases Instrument.parse u.name <;> simp [Except.toOption]

theorem quote?_eq_none_iff (u : QuoteUpdate) (receivedAt : Timestamp) :
    u.quote? receivedAt = none ↔ ∀ i, ¬ u.Prices i := by
  simp only [prices_iff u receivedAt, Option.eq_none_iff_forall_ne_some]
  constructor
  · rintro hnone i ⟨quote, hquote, -⟩
    exact hnone quote hquote
  · intro hprices quote hquote
    exact hprices quote.instrument ⟨quote, hquote, rfl⟩

end QuoteUpdate

namespace Message

/-- The payload does not start with the mark of heartbeats, and it is a JSON text with the parts of
a message. -/
def Reads (payload : List Char) (parts : Parts) : Prop :=
  ¬ "~h~".toList <+: payload ∧ (Json.read (String.ofList payload)).bind parts? = some parts

/-- A parameter names a session: the text that it is, or the empty one if it is no text. -/
def NamesSession (parameter : Option Json) (session : String) : Prop :=
  parameter = some (.str session) ∨ (∀ text, parameter ≠ some (.str text)) ∧ session = ""

/-- The payload is an update addressed to a session. -/
def Carries (payload : List Char) (session : String) (update : QuoteUpdate) : Prop :=
  ∃ parts, Reads payload parts ∧ parts.method = some "qsd" ∧
    NamesSession parts.parameters[0]? session ∧
    QuoteUpdate.ofJson? (parts.parameters[1]?.getD .null) = some update

/-- The payload is neither a heartbeat nor a message: it cannot be read as one, has neither a method
nor a session, or should carry an update and does not. -/
def Malformed (payload : List Char) : Prop :=
  ¬ "~h~".toList <+: payload ∧ ∀ parts, Reads payload parts →
    parts.method = none ∧ parts.session = none ∨
      parts.method = some "qsd" ∧
        QuoteUpdate.ofJson? (parts.parameters[1]?.getD .null) = none

/-- The methods that say something about a session. -/
def controlMethods : List String := ["quote_completed", "critical_error", "protocol_error"]

/-- The payload says something about the session: it is a greeting, or has such a method. -/
def Controls (payload : List Char) : Prop :=
  ∃ parts, Reads payload parts ∧
    (parts.method = none ∧ parts.session ≠ none ∨ ∃ m ∈ controlMethods, parts.method = some m)

/-- The payload has a method that nothing is done about. -/
def Unhandled (payload : List Char) : Prop :=
  ∃ parts method, Reads payload parts ∧ parts.method = some method ∧
    method ≠ "qsd" ∧ method ∉ controlMethods

theorem namesSession_iff (parameter : Option Json) (session : String) :
    NamesSession parameter session ↔ sessionOf parameter = session := by
  unfold NamesSession sessionOf
  cases parameter with
  | none => simp [eq_comm]
  | some v => cases v <;> simp [Json.text?, eq_comm]

theorem isHeartbeat_iff (payload : List Char) :
    isHeartbeat payload = true ↔ "~h~".toList <+: payload := List.isPrefixOf_iff_prefix

/-- A method decides what a payload says; without one it may be a greeting. -/
theorem parse_of_reads {payload : List Char} {parts : Parts} (h : Reads payload parts) :
    (∀ method, parts.method = some method → parse payload = ofMethod method parts.parameters) ∧
    (∀ session, parts.method = none → parts.session = some session →
      parse payload = .ok (.hello session)) ∧
    (parts.method = none → parts.session = none → ∃ fault, parse payload = .error fault) := by
  obtain ⟨hmark, hparts⟩ := h
  rw [← isHeartbeat_iff] at hmark
  rw [parse, if_neg hmark]
  refine ⟨fun method hmethod => ?_, fun session hmethod hsession => ?_,
    fun hmethod hsession => ⟨.noMethod (String.ofList (payload.take 64)), ?_⟩⟩
  · simp only [hparts, hmethod]
  · simp only [hparts, hmethod, hsession]
  · simp only [hparts, hmethod, hsession]

theorem parse_of_mark {payload : List Char} (h : "~h~".toList <+: payload) :
    parse payload = .ok (.heartbeat payload) := if_pos ((isHeartbeat_iff payload).mpr h)

theorem parse_of_carries {payload : List Char} {session : String} {update : QuoteUpdate}
    (h : Carries payload session update) :
    parse payload = .ok (.quoteData session update) := by
  obtain ⟨parts, hreads, hmethod, hsession, hupdate⟩ := h
  rw [namesSession_iff] at hsession
  rw [(parse_of_reads hreads).1 _ hmethod]
  simp only [ofMethod, BEq.rfl, if_true, hupdate, hsession]

theorem parse_of_malformed {payload : List Char} (h : Malformed payload) :
    ∃ fault, parse payload = .error fault := by
  obtain ⟨hmark, hparts⟩ := h
  cases hread : (Json.read (String.ofList payload)).bind parts? with
  | none =>
    rw [← isHeartbeat_iff] at hmark
    exact ⟨.malformed, by rw [parse, if_neg hmark]; simp only [hread]⟩
  | some parts =>
    have hreads : Reads payload parts := ⟨hmark, hread⟩
    obtain ⟨hmethod, hsession⟩ | ⟨hmethod, hupdate⟩ := hparts parts hreads
    · exact (parse_of_reads hreads).2.2 hmethod hsession
    · refine ⟨.malformed, ?_⟩
      rw [(parse_of_reads hreads).1 _ hmethod]
      simp only [ofMethod, BEq.rfl, if_true, hupdate]

/-- **A payload is a heartbeat or malformed, says something about the session, has a method that
nothing is done about, or carries an update.** -/
theorem said (payload : List Char) :
    "~h~".toList <+: payload ∨ Malformed payload ∨ Controls payload ∨ Unhandled payload ∨
      ∃ session update, Carries payload session update := by
  by_cases hmark : "~h~".toList <+: payload
  · exact Or.inl hmark
  right
  cases hread : (Json.read (String.ofList payload)).bind parts? with
  | none =>
    refine Or.inl ⟨hmark, fun parts hparts => ?_⟩
    exact absurd (hread.symm.trans hparts.2) (by simp)
  | some parts =>
    have hreads : Reads payload parts := ⟨hmark, hread⟩
    have honly : ∀ parts', Reads payload parts' → parts' = parts := fun parts' h =>
      Option.some.inj (h.2.symm.trans hread)
    cases hmethod : parts.method with
    | none =>
      by_cases hsession : parts.session = none
      · exact Or.inl ⟨hmark, fun parts' h => honly parts' h ▸ Or.inl ⟨hmethod, hsession⟩⟩
      · exact Or.inr (Or.inl ⟨parts, hreads, Or.inl ⟨hmethod, hsession⟩⟩)
    | some method =>
      by_cases hcontrols : method ∈ controlMethods
      · exact Or.inr (Or.inl ⟨parts, hreads, Or.inr ⟨method, hcontrols, hmethod⟩⟩)
      by_cases hqsd : method = "qsd"
      · subst hqsd
        cases hupdate : QuoteUpdate.ofJson? (parts.parameters[1]?.getD .null) with
        | none => exact Or.inl ⟨hmark, fun parts' h => honly parts' h ▸ Or.inr ⟨hmethod, hupdate⟩⟩
        | some update =>
          exact Or.inr (Or.inr (Or.inr ⟨sessionOf parts.parameters[0]?, update, parts, hreads,
            hmethod, (namesSession_iff _ _).mpr rfl, hupdate⟩))
      · exact Or.inr (Or.inr (Or.inl ⟨parts, method, hreads, hmethod, hqsd, hcontrols⟩))

end Message

namespace TickPath

open Message (Carries Malformed Controls Unhandled)

variable {payload : List Char} {session : String} {receivedAt : Timestamp}

/-! ## What a payload is classified as -/

theorem classify_of_mark (h : "~h~".toList <+: payload) :
    classify session payload receivedAt = .heartbeat := by
  rw [classify, Message.parse_of_mark h]

theorem classify_of_malformed (h : Malformed payload) :
    classify session payload receivedAt = .dropped .malformed := by
  obtain ⟨fault, hparse⟩ := Message.parse_of_malformed h
  rw [classify, hparse]

theorem classify_of_controls (h : Controls payload) :
    classify session payload receivedAt = .sessionControl := by
  obtain ⟨parts, hreads, ⟨hmethod, hsession⟩ | ⟨method, hmember, hmethod⟩⟩ := h
  · obtain ⟨greeted, hgreeted⟩ := Option.ne_none_iff_exists'.mp hsession
    rw [classify, (Message.parse_of_reads hreads).2.1 greeted hmethod hgreeted]
  · rw [classify, (Message.parse_of_reads hreads).1 _ hmethod]
    simp only [Message.controlMethods, List.mem_cons, List.not_mem_nil, or_false] at hmember
    obtain rfl | rfl | rfl := hmember <;> rfl

theorem classify_of_unhandled (h : Unhandled payload) :
    classify session payload receivedAt = .dropped .unhandledMethod := by
  obtain ⟨parts, method, hreads, hmethod, hqsd, hcontrols⟩ := h
  simp only [Message.controlMethods, List.mem_cons, List.not_mem_nil, or_false, not_or]
    at hcontrols
  obtain ⟨hcompleted, hcritical, hprotocol⟩ := hcontrols
  rw [classify, (Message.parse_of_reads hreads).1 _ hmethod]
  simp only [Message.ofMethod, beq_eq_false_iff_ne.mpr hqsd, beq_eq_false_iff_ne.mpr hcompleted,
    beq_eq_false_iff_ne.mpr hcritical, beq_eq_false_iff_ne.mpr hprotocol, Bool.or_self,
    Bool.false_eq_true, if_false]

theorem classify_of_stale {addressed : String} {update : QuoteUpdate}
    (h : Carries payload addressed update) (hstale : addressed ≠ session) :
    classify session payload receivedAt = .dropped .staleSession := by
  rw [classify, Message.parse_of_carries h]
  exact if_pos (bne_iff_ne.mpr hstale)

theorem classify_of_carries {update : QuoteUpdate} (h : Carries payload session update) :
    classify session payload receivedAt =
      (update.quote? receivedAt).elim (.dropped .noLastPrice) .quote := by
  rw [classify, Message.parse_of_carries h]
  simp only [bne_self_eq_false, Bool.false_eq_true, if_false]
  cases update.quote? receivedAt <;> rfl

/-- A payload is a quote exactly if it carries an update for the session that amounts to it. -/
theorem classify_eq_quote_iff {quote : Quote} :
    classify session payload receivedAt = .quote quote ↔
      ∃ update, Carries payload session update ∧ update.quote? receivedAt = some quote := by
  constructor
  · intro hquote
    obtain hmark | hmalformed | hcontrols | hunhandled | ⟨addressed, update, hcarries⟩ :=
      Message.said payload
    · exact absurd ((classify_of_mark hmark).symm.trans hquote) Classified.noConfusion
    · exact absurd ((classify_of_malformed hmalformed).symm.trans hquote) Classified.noConfusion
    · exact absurd ((classify_of_controls hcontrols).symm.trans hquote) Classified.noConfusion
    · exact absurd ((classify_of_unhandled hunhandled).symm.trans hquote) Classified.noConfusion
    · by_cases hstale : addressed = session
      · subst hstale
        rw [classify_of_carries hcarries] at hquote
        refine ⟨update, hcarries, ?_⟩
        cases hsome : update.quote? receivedAt with
        | none => rw [hsome] at hquote; exact absurd hquote Classified.noConfusion
        | some quote' => rw [hsome] at hquote; exact congrArg some (Classified.quote.inj hquote)
      · exact absurd ((classify_of_stale hcarries hstale).symm.trans hquote)
          Classified.noConfusion
  · rintro ⟨update, hcarries, hquote⟩
    rw [classify_of_carries hcarries, hquote]
    rfl

/-! ## What becomes of it -/

/-- A payload that is dropped deserves it: of all its faults, this is the first. -/
def Deserves (subscribed : Registry) (session : String) (payload : List Char) :
    DropReason → Prop
  | .malformed => Malformed payload
  | .unhandledMethod => Unhandled payload
  | .staleSession => ∃ addressed update, Carries payload addressed update ∧ addressed ≠ session
  | .noLastPrice => ∃ update, Carries payload session update ∧ ∀ i, ¬ update.Prices i
  | .unsubscribed => ∃ update i, Carries payload session update ∧ update.Prices i ∧
      subscribed.contains i = false

/-- The payload carries an update addressed to the session, with a price of a subscribed
instrument. -/
def Genuine (subscribed : Registry) (session : String) (payload : List Char) : Prop :=
  ∃ update i, Carries payload session update ∧ update.Prices i ∧ subscribed.contains i = true

/-- A payload is a heartbeat or about the session, deserves to be dropped, or is genuine. -/
theorem judged (subscribed : Registry) (session : String) (payload : List Char) :
    "~h~".toList <+: payload ∨ Controls payload ∨
      (∃ reason, Deserves subscribed session payload reason) ∨
      Genuine subscribed session payload := by
  obtain hmark | hmalformed | hcontrols | hunhandled | ⟨addressed, update, hcarries⟩ :=
    Message.said payload
  · exact Or.inl hmark
  · exact Or.inr (Or.inr (Or.inl ⟨.malformed, hmalformed⟩))
  · exact Or.inr (Or.inl hcontrols)
  · exact Or.inr (Or.inr (Or.inl ⟨.unhandledMethod, hunhandled⟩))
  · refine Or.inr (Or.inr ?_)
    by_cases hstale : addressed = session
    · subst hstale
      by_cases hprices : ∃ i, update.Prices i
      · obtain ⟨i, hi⟩ := hprices
        cases hsubscribed : subscribed.contains i with
        | false => exact Or.inl ⟨.unsubscribed, update, i, hcarries, hi, hsubscribed⟩
        | true => exact Or.inr ⟨update, i, hcarries, hi, hsubscribed⟩
      · exact Or.inl ⟨.noLastPrice, update, hcarries, not_exists.mp hprices⟩
    · exact Or.inl ⟨.staleSession, addressed, update, hcarries, hstale⟩

variable {subscribed : Registry} {now : Nat}

theorem dispatch_of_mark (p : TickPath) (h : "~h~".toList <+: payload) :
    p.dispatch now receivedAt subscribed session payload = ⟨p, [], [], .heartbeat⟩ := by
  simp only [dispatch, classify_of_mark h]

theorem dispatch_of_controls (p : TickPath) (h : Controls payload) :
    p.dispatch now receivedAt subscribed session payload = ⟨p, [], [], .sessionControl⟩ := by
  simp only [dispatch, classify_of_controls h]

/-- A payload that deserves it is dropped, which is all that is counted. -/
theorem dispatch_of_deserves (p : TickPath) {reason : DropReason}
    (h : Deserves subscribed session payload reason) :
    p.dispatch now receivedAt subscribed session payload =
      ⟨p, [], [.dropped reason.name], .dropped reason⟩ := by
  have hdropped : classify session payload receivedAt = .dropped reason →
      p.dispatch now receivedAt subscribed session payload =
        ⟨p, [], [.dropped reason.name], .dropped reason⟩ := by
    intro hclassify
    simp only [dispatch, hclassify, List.nil_append]
  cases reason with
  | malformed => exact hdropped (classify_of_malformed h)
  | unhandledMethod => exact hdropped (classify_of_unhandled h)
  | staleSession =>
    obtain ⟨addressed, update, hcarries, hstale⟩ := h
    exact hdropped (classify_of_stale hcarries hstale)
  | noLastPrice =>
    obtain ⟨update, hcarries, hprices⟩ := h
    have hnone : update.quote? receivedAt = none :=
      (update.quote?_eq_none_iff receivedAt).mpr hprices
    exact hdropped (by rw [classify_of_carries hcarries, hnone]; rfl)
  | unsubscribed =>
    obtain ⟨update, i, hcarries, hprices, hsubscribed⟩ := h
    obtain ⟨quote, hquote, rfl⟩ := (update.prices_iff receivedAt i).mp hprices
    have hclassify : classify session payload receivedAt = .quote quote :=
      classify_eq_quote_iff.mpr ⟨update, hcarries, hquote⟩
    simp only [dispatch, hclassify, take, accept, hsubscribed, Bool.false_eq_true, if_false,
      List.nil_append]

/-! ## Genuine payloads -/

/-- A write to the cache counts nothing but failed writes. -/
theorem isCacheFailure_of_mem_noteWrite {p : TickPath} {kind : String}
    {write : QuoteCache × Except CacheFault Unit} {c : Counter}
    (hc : c ∈ (p.noteWrite kind write).counted) : c.isCacheFailure = true := by
  unfold noteWrite at hc
  split at hc
  · exact absurd hc List.not_mem_nil
  · exact absurd hc List.not_mem_nil
  · rw [List.mem_singleton.mp hc]
    rfl

/-- Writing bars in progress counts nothing but failed writes. -/
theorem isCacheFailure_of_mem_recordBars {p : TickPath} {bars : List OpenBar} {c : Counter}
    (hc : c ∈ (p.recordBars now bars).counted) : c.isCacheFailure = true := by
  induction bars generalizing p with
  | nil => exact absurd hc List.not_mem_nil
  | cons bar bars ih =>
    simp only [recordBars] at hc
    split at hc
    · exact (List.mem_append.mp hc).elim isCacheFailure_of_mem_noteWrite ih
    · exact isCacheFailure_of_mem_noteWrite hc

/-- Recording counts nothing but failed writes. -/
theorem isCacheFailure_of_mem_record {p : TickPath} {quote : Quote} {current : List OpenBar}
    {c : Counter} (hc : c ∈ (p.record now quote current).counted) : c.isCacheFailure = true := by
  simp only [record] at hc
  split at hc
  · exact (List.mem_append.mp hc).elim isCacheFailure_of_mem_noteWrite
      isCacheFailure_of_mem_recordBars
  · exact isCacheFailure_of_mem_noteWrite hc

/-- The bucket that a quote falls into has an end, for each granularity that its tick reaches. -/
def BucketEnds (p : TickPath) (receivedAt : Timestamp) (subscribed : Registry) (session : String)
    (payload : List Char) : Prop :=
  ∀ update quote, Carries payload session update → update.quote? receivedAt = some quote →
    subscribed.contains quote.instrument = true →
    (p.engine.addTick quote.tick).2 ≠ .outOfTime

/-- Only a payload that is classified as a quote has to have one. -/
theorem bucketEnds_iff {p : TickPath} :
    p.BucketEnds receivedAt subscribed session payload ↔
      ∀ quote, classify session payload receivedAt = .quote quote →
        subscribed.contains quote.instrument = true →
        (p.engine.addTick quote.tick).2 ≠ .outOfTime := by
  simp only [classify_eq_quote_iff]
  constructor
  · rintro hends quote ⟨update, hcarries, hquote⟩
    exact hends update quote hcarries hquote
  · intro hends update quote hcarries hquote
    exact hends quote ⟨update, hcarries, hquote⟩

/-- A payload that is a quote of a subscribed instrument is genuine. -/
theorem genuine_of_classify {quote : Quote}
    (hquote : classify session payload receivedAt = .quote quote)
    (hsubscribed : subscribed.contains quote.instrument = true) :
    Genuine subscribed session payload := by
  obtain ⟨update, hcarries, hquote⟩ := classify_eq_quote_iff.mp hquote
  exact ⟨update, quote.instrument, hcarries,
    (update.prices_iff receivedAt _).mpr ⟨quote, hquote, rfl⟩, hsubscribed⟩

/-- What a quote leads to that is taken: its tick is added to the engine and counted, and the quote
is reported unless an entry in the cache would outlive the clock. -/
structure Takes (p : TickPath) (now : Nat) (quote : Quote) (r : PathStep Dispatched) : Prop where
  performed : ∃ m, p.engine.perform (.tick quote.tick) = some m ∧ r.path.engine = m.engine ∧
    r.delivered = m.delivered
  counted : ∃ failures : List Counter, (∀ c ∈ failures, c.isCacheFailure = true) ∧
    r.counted = .ticks quote.instrument.exchange :: failures
  reported : ¬ p.OutlivesClock now p.engine.granularities.length → r.result = .tick quote
  unreported : p.OutlivesClock now p.engine.granularities.length → r.result = .brokenOff

/-- A quote of a subscribed instrument is taken if its bucket ends. -/
theorem take_takes {p : TickPath} {quote : Quote}
    (hsubscribed : subscribed.contains quote.instrument = true)
    (hends : (p.engine.addTick quote.tick).2 ≠ .outOfTime) :
    p.Takes now quote (p.take now subscribed quote) := by
  cases hadd : p.engine.addTick quote.tick with
  | mk m outcome =>
    cases outcome with
    | outOfTime => exact absurd (congrArg Prod.snd hadd) hends
    | applied rolled current =>
      have hlength : current.length = p.engine.granularities.length :=
        Engine.current_length_of_applied (congrArg Prod.snd hadd)
      have hresult : (record { p with engine := m.engine } now quote current).result = false ↔
          p.OutlivesClock now p.engine.granularities.length := by
        rw [record_result, hlength]
        rfl
      simp only [take, accept, hsubscribed, if_true, hadd]
      refine ⟨⟨m, ?_, record_engine _ _ _ _, rfl⟩,
        ⟨_, fun c hc => isCacheFailure_of_mem_record hc, rfl⟩, fun hlives => ?_,
        fun houtlives => ?_⟩
      · simp only [Engine.perform, hadd]
      · rw [← hresult, Bool.not_eq_false] at hlives
        exact if_pos hlives
      · rw [← hresult] at houtlives
        simp only [houtlives, Bool.false_eq_true, if_false]

/-- A quote that is taken is not dropped. -/
theorem Takes.ne_dropped {p : TickPath} {quote : Quote} {r : PathStep Dispatched}
    (h : p.Takes now quote r) (reason : DropReason) : r.result ≠ .dropped reason := by
  by_cases houtlives : p.OutlivesClock now p.engine.granularities.length
  · simp [h.unreported houtlives]
  · simp [h.reported houtlives]

/-- A genuine payload's quote is taken. -/
theorem dispatch_of_genuine {p : TickPath}
    (hends : p.BucketEnds receivedAt subscribed session payload)
    (h : Genuine subscribed session payload) :
    ∃ update quote, Carries payload session update ∧ update.quote? receivedAt = some quote ∧
      subscribed.contains quote.instrument = true ∧
      p.Takes now quote (p.dispatch now receivedAt subscribed session payload) := by
  obtain ⟨update, i, hcarries, hprices, hsubscribed⟩ := h
  obtain ⟨quote, hquote, rfl⟩ := (update.prices_iff receivedAt i).mp hprices
  refine ⟨update, quote, hcarries, hquote, hsubscribed, ?_⟩
  have hclassify : classify session payload receivedAt = .quote quote :=
    classify_eq_quote_iff.mpr ⟨update, hcarries, hquote⟩
  have htakes : p.Takes now quote (p.take now subscribed quote) :=
    take_takes hsubscribed (hends update quote hcarries hquote hsubscribed)
  simp only [dispatch, hclassify]
  split
  · rename_i reason hdropped
    exact absurd hdropped (htakes.ne_dropped reason)
  · exact htakes

/-! ## The table -/

/-- A counter moves by one, and no other of a kind does. -/
def CountsOnce (counted : List Counter) (counter : Counter) (kind : Counter → Prop) : Prop :=
  ∀ (m : Metrics) (c : Counter), kind c →
    (m.countAll counted).get c = m.get c + if counter = c then 1 else 0

/-- **What is judged of a payload**: which outcome it has, what it leaves as it is, and what it
counts. -/
structure Judged (p : TickPath) (now : Nat) (receivedAt : Timestamp) (subscribed : Registry)
    (session : String) (payload : List Char) (r : PathStep Dispatched) : Prop where
  /-- A tick is reported exactly for a genuine payload whose cache entries fit the clock. -/
  tick : (∃ quote, r.result = .tick quote) ↔ Genuine subscribed session payload ∧
    ¬ p.OutlivesClock now p.engine.granularities.length
  /-- Where they do not fit the path breaks off. -/
  brokenOff : r.result = .brokenOff ↔ Genuine subscribed session payload ∧
    p.OutlivesClock now p.engine.granularities.length
  /-- A payload is dropped exactly for the first of its faults. -/
  dropped : ∀ reason, r.result = .dropped reason ↔ Deserves subscribed session payload reason
  heartbeat : r.result = .heartbeat ↔ "~h~".toList <+: payload
  sessionControl : r.result = .sessionControl ↔ Controls payload
  /-- Only a genuine payload changes anything. -/
  unchanged : ¬ Genuine subscribed session payload → r.path = p ∧ r.delivered = []
  /-- The quote of a genuine payload is what its update amounts to. -/
  taken : Genuine subscribed session payload →
    ∃ update quote, Carries payload session update ∧ update.quote? receivedAt = some quote ∧
      (r.result = .tick quote ∨ r.result = .brokenOff) ∧
      (∃ m, p.engine.perform (.tick quote.tick) = some m ∧ r.path.engine = m.engine ∧
        r.delivered = m.delivered) ∧
      CountsOnce r.counted (.ticks quote.instrument.exchange) fun c => c.isCacheFailure = false
  /-- What is dropped is counted for its reason. -/
  countsDropped : ∀ reason, r.result = .dropped reason →
    CountsOnce r.counted (.dropped reason.name) fun _ => True
  countsNothing : r.result = .heartbeat ∨ r.result = .sessionControl → r.counted = []

/-- What else is counted is of another kind. -/
theorem countsOnce_cons {others : List Counter} {kind : Counter → Prop}
    (h : ∀ c ∈ others, ¬ kind c) (counter : Counter) :
    CountsOnce (counter :: others) counter kind := by
  intro m c hc
  have hnone : others.count c = 0 := List.count_eq_zero.mpr fun hmem => h c hmem hc
  rw [Metrics.get_countAll, List.count_cons, hnone, Nat.zero_add]
  simp only [beq_iff_eq]

/-- **Only genuine payloads have effects, and every payload is reported and counted as what it
is.**  On any path, at any time and with any subscriptions, a payload whose bucket has an end is
judged by the table. -/
theorem dispatch_judged {p : TickPath} {now : Nat} {receivedAt : Timestamp} {subscribed : Registry}
    {session : String} {payload : List Char}
    (hends : p.BucketEnds receivedAt subscribed session payload) :
    p.Judged now receivedAt subscribed session payload
      (p.dispatch now receivedAt subscribed session payload) := by
  -- what the payload is decides what comes of it, and it is one of these
  have hmark : "~h~".toList <+: payload →
      p.dispatch now receivedAt subscribed session payload = ⟨p, [], [], .heartbeat⟩ :=
    dispatch_of_mark p
  have hcontrols : Controls payload →
      p.dispatch now receivedAt subscribed session payload = ⟨p, [], [], .sessionControl⟩ :=
    dispatch_of_controls p
  have hdeserves : ∀ reason, Deserves subscribed session payload reason →
      p.dispatch now receivedAt subscribed session payload =
        ⟨p, [], [.dropped reason.name], .dropped reason⟩ := fun _ => dispatch_of_deserves p
  have hgenuine : Genuine subscribed session payload → ∃ update quote,
      Carries payload session update ∧ update.quote? receivedAt = some quote ∧
        subscribed.contains quote.instrument = true ∧
        p.Takes now quote (p.dispatch now receivedAt subscribed session payload) :=
    dispatch_of_genuine hends
  have hall := judged subscribed session payload
  generalize p.dispatch now receivedAt subscribed session payload = r at *
  have hreported : Genuine subscribed session payload →
      (¬ p.OutlivesClock now p.engine.granularities.length ∧ ∃ quote, r.result = .tick quote) ∨
      (p.OutlivesClock now p.engine.granularities.length ∧ r.result = .brokenOff) := by
    intro h
    obtain ⟨update, quote, -, -, -, htakes⟩ := hgenuine h
    by_cases houtlives : p.OutlivesClock now p.engine.granularities.length
    · exact Or.inr ⟨houtlives, htakes.unreported houtlives⟩
    · exact Or.inl ⟨houtlives, quote, htakes.reported houtlives⟩
  have hdropped : ∀ reason, r.result = .dropped reason →
      Deserves subscribed session payload reason := by grind
  -- an outcome belongs to one of these only
  exact {
    tick := by grind
    brokenOff := by grind
    dropped := fun reason => ⟨hdropped reason, by grind⟩
    heartbeat := by grind
    sessionControl := by grind
    unchanged := by grind
    taken := by
      intro h
      obtain ⟨update, quote, hcarries, hquote, -, htakes⟩ := hgenuine h
      obtain ⟨failures, hfailures, hcounted⟩ := htakes.counted
      refine ⟨update, quote, hcarries, hquote, ?_, htakes.performed, ?_⟩
      · by_cases houtlives : p.OutlivesClock now p.engine.granularities.length
        · exact Or.inr (htakes.unreported houtlives)
        · exact Or.inl (htakes.reported houtlives)
      · rw [hcounted]
        exact countsOnce_cons (fun c hc => by rw [hfailures c hc]; exact Bool.noConfusion) _
    countsDropped := by
      intro reason hreason
      rw [hdeserves reason (hdropped reason hreason)]
      exact countsOnce_cons (fun c hc => absurd hc List.not_mem_nil) _
    countsNothing := by grind }

/-- A quote of a subscribed instrument is reported.  An update that is addressed to no session, has
no price and names no instrument is reported as the first of these. -/
theorem dispatch_judged_precedence : ∃ (p : TickPath) (r : Registry) (quoted faulty : List Char),
    p.BucketEnds .epoch r "s" quoted ∧ p.BucketEnds .epoch r "s" faulty ∧
      (∃ quote, (p.dispatch 0 .epoch r "s" quoted).result = .tick quote) ∧
      Genuine r "s" quoted ∧ Deserves r "s" faulty .staleSession ∧
      (p.dispatch 0 .epoch r "s" faulty).path = p := by
  let aapl : Instrument := ⟨"NASDAQ", "AAPL", by decide, by decide, by decide⟩
  let usual : Quote := ⟨aapl, ⟨1704207600, 0, by decide, by decide, by decide⟩, 1, none, none, none,
    none, none, none, none, none, none⟩
  let p : TickPath := ⟨.new [.minute1], .standard .reliable, true⟩
  let r : Registry := (Registry.empty.insert aapl).1
  let quoted := datedPayload "1704207600"
  let faulty := "\x7b\"m\":\"qsd\",\"p\":[7,\x7b\"n\":\"AAPL\"\x7d]\x7d".toList
  have hquoted : classify "s" quoted .epoch = .quote usual := by decide +kernel
  have hfaulty : classify "s" faulty .epoch = .dropped .staleSession := by decide +kernel
  have hends : p.BucketEnds .epoch r "s" quoted := by
    rw [bucketEnds_iff]
    intro quote hquote _
    obtain rfl := Classified.quote.inj (hquoted.symm.trans hquote)
    decide +kernel
  have hends' : p.BucketEnds .epoch r "s" faulty := by
    rw [bucketEnds_iff]
    intro quote hquote
    exact absurd (hfaulty.symm.trans hquote) Classified.noConfusion
  have hgenuine : Genuine r "s" quoted := genuine_of_classify hquoted (by decide)
  have hroom : ¬ p.OutlivesClock 0 p.engine.granularities.length :=
    not_outlivesClock (by decide) (by decide) _
  have hjudged : p.Judged 0 .epoch r "s" quoted (p.dispatch 0 .epoch r "s" quoted) :=
    dispatch_judged hends
  have hjudged' : p.Judged 0 .epoch r "s" faulty (p.dispatch 0 .epoch r "s" faulty) :=
    dispatch_judged hends'
  have hresult : (p.dispatch 0 .epoch r "s" faulty).result = .dropped .staleSession := by
    simp only [dispatch, hfaulty]
  refine ⟨p, r, quoted, faulty, hends, hends', hjudged.tick.mpr ⟨hgenuine, hroom⟩, hgenuine,
    (hjudged'.dropped .staleSession).mp hresult, (dispatch_dropped hresult).1⟩

/-- **An entry that outlives the clock takes the report with it**: the quote is genuine, its bucket
has an end and its tick is counted, but it is not reported. -/
theorem dispatch_genuineUnreported : ∃ (p : TickPath) (r : Registry) (payload : List Char),
    p.engine = .new [.minute1] ∧ p.quotes.quoteTtl = (2 ^ 64 - 1) * Clock.second ∧
      p.BucketEnds .epoch r "s" payload ∧ Genuine r "s" payload ∧
      (p.dispatch 0 .epoch r "s" payload).result = .brokenOff ∧
      (p.dispatch 0 .epoch r "s" payload).counted = [.ticks "NASDAQ"] := by
  let aapl : Instrument := ⟨"NASDAQ", "AAPL", by decide, by decide, by decide⟩
  let usual : Quote := ⟨aapl, ⟨1704207600, 0, by decide, by decide, by decide⟩, 1, none, none, none,
    none, none, none, none, none, none⟩
  let p : TickPath :=
    ⟨.new [.minute1], ⟨.reliable, (2 ^ 64 - 1) * Clock.second, 300 * Clock.second⟩, true⟩
  let r : Registry := (Registry.empty.insert aapl).1
  have hquote : classify "s" (datedPayload "1704207600") .epoch = .quote usual := by decide +kernel
  refine ⟨p, r, datedPayload "1704207600", rfl, rfl, ?_,
    genuine_of_classify hquote (by decide), by decide +kernel, by decide +kernel⟩
  rw [bucketEnds_iff]
  intro quote hother _
  obtain rfl := Classified.quote.inj (hquote.symm.trans hother)
  decide +kernel

end TickPath

end CandleFeed

import CandleFeed.Proofs.Config.Checks
import CandleFeed.Proofs.Market.Names

/-!
# Settings from the environment

Four settings can be said by variables of the environment.  The list of instruments is one text,
with commas between its items: a **`Listing`** says which symbols the items say, where blanks around
a symbol and items of blanks only do not count.  A list of the written forms of instruments is read
as these instruments, in order (`splitSymbols_joined`, `instrumentsOf_names`).

A variable is **`Silent`** if it is unset or there is nothing but blanks in it, and then its setting
stays; otherwise the setting is **`TakenFrom`** it.  What is said never takes away what the checks
ask for (`Workable.override`), and to say it again changes nothing (`override_override`).
**`override_faithful`** puts this together.
-/

namespace CandleFeed.FeedConfig

/-! ## Variables -/

/-- A variable says nothing: it is unset, or there is nothing but blanks in it. -/
def Silent (env : Environment) (name : String) : Prop :=
  ∀ value, env name = some value → Text.isBlankText value.toList = true

/-- A variable that says nothing has no value that counts. -/
theorem Silent.setting {env : Environment} {name : String} (h : Silent env name) :
    setting env name = none := by
  apply Option.filter_eq_none_iff.mpr
  intro value hvalue
  rw [h value hvalue]
  decide

/-- What a variable says counts as it is. -/
theorem setting_eq_some {env : Environment} {name value : String} (h : env name = some value)
    (hsaid : Text.isBlankText value.toList = false) : setting env name = some value := by
  apply Option.filter_eq_some_iff.mpr
  rw [hsaid]
  exact ⟨h, rfl⟩

/-- A setting is taken from a variable: it is what the variable says, and stays as it was if the
variable says nothing. -/
structure TakenFrom (env : Environment) (name : String) (before after : Option String) : Prop where
  kept : Silent env name → after = before
  said : ∀ value, env name = some value → Text.isBlankText value.toList = false →
    after = some value

theorem takenFrom_or (env : Environment) (name : String) (before : Option String) :
    TakenFrom env name before ((setting env name).or before) := by
  constructor
  · intro hsilent
    rw [hsilent.setting, Option.none_or]
  · intro value hvalue hsaid
    rw [setting_eq_some hvalue hsaid, Option.some_or]

/-! ## Lists of symbols -/

/-- The symbol that an item of a list says, if it says one. -/
def symbol? (item : List Char) : Option String :=
  if (Text.trim item).isEmpty then none else some (String.ofList (Text.trim item))

/-- The symbols in a list are those of its items. -/
theorem splitSymbols_eq (text : String) :
    splitSymbols text = (Text.fields ',' text.toList).filterMap symbol? :=
  List.filterMap_map

/-- An item of blanks only says no symbol. -/
theorem symbol?_blank {item : List Char} (h : Text.isBlankText item = true) :
    symbol? item = none := by
  rw [symbol?, Text.trim_of_isBlankText h]
  rfl

/-- Blanks around a symbol do not count. -/
theorem symbol?_between {before after : List Char} {s : String} (hne : s ≠ "")
    (htrimmed : Text.Trimmed s.toList) (hbefore : Text.isBlankText before = true)
    (hafter : Text.isBlankText after = true) :
    symbol? (before ++ s.toList ++ after) = some s := by
  have hchars : ¬s.toList.isEmpty = true := by
    rw [List.isEmpty_iff, String.toList_eq_nil_iff]
    exact hne
  rw [symbol?, htrimmed.trim_between hbefore hafter, if_neg hchars, String.ofList_toList]

/-- The items of a list say symbols, in order, each with any blanks around it; an item of blanks
only says none. -/
inductive Listing : List (List Char) → List String → Prop
  | nil : Listing [] []
  | blank {item : List Char} {items : List (List Char)} {symbols : List String} :
      Text.isBlankText item = true → Listing items symbols → Listing (item :: items) symbols
  | symbol {before after : List Char} {s : String} {items : List (List Char)}
      {symbols : List String} :
      Text.isBlankText before = true → Text.isBlankText after = true → Listing items symbols →
        Listing ((before ++ s.toList ++ after) :: items) (s :: symbols)

/-- No comma is blank. -/
theorem comma_not_mem_blank {cs : List Char} (h : Text.isBlankText cs = true) : ',' ∉ cs := by
  intro hcomma
  exact absurd (List.all_eq_true.mp h ',' hcomma) (by decide)

namespace Listing

variable {items : List (List Char)} {symbols : List String}

/-- If the symbols have no commas, neither have the items. -/
theorem comma_not_mem (h : Listing items symbols) (hnone : ∀ s ∈ symbols, ',' ∉ s.toList) :
    ∀ item ∈ items, ',' ∉ item := by
  induction h with
  | nil =>
    intro item hitem
    exact absurd hitem List.not_mem_nil
  | blank hblank _ ih =>
    intro item hitem
    rcases List.mem_cons.mp hitem with rfl | hitem
    · exact comma_not_mem_blank hblank
    · exact ih hnone item hitem
  | @symbol before after s items symbols hbefore hafter _ ih =>
    intro item hitem
    rcases List.mem_cons.mp hitem with rfl | hitem
    · rw [List.mem_append, List.mem_append, not_or, not_or]
      exact ⟨⟨comma_not_mem_blank hbefore, hnone s List.mem_cons_self⟩, comma_not_mem_blank hafter⟩
    · apply ih _ item hitem
      intro t ht
      exact hnone t (List.mem_cons_of_mem s ht)

/-- The items say the symbols and nothing else. -/
theorem filterMap_symbol? (h : Listing items symbols)
    (hsymbols : ∀ s ∈ symbols, s ≠ "" ∧ Text.Trimmed s.toList) :
    items.filterMap symbol? = symbols := by
  induction h with
  | nil => rfl
  | blank hblank _ ih =>
    rw [List.filterMap_cons_none (symbol?_blank hblank)]
    exact ih hsymbols
  | @symbol before after s items symbols hbefore hafter _ ih =>
    obtain ⟨hne, htrimmed⟩ := hsymbols s List.mem_cons_self
    rw [List.filterMap_cons_some (symbol?_between hne htrimmed hbefore hafter), ih]
    intro t ht
    exact hsymbols t (List.mem_cons_of_mem s ht)

/-- A list that says something has items. -/
theorem items_ne_nil (h : Listing items symbols) (hne : symbols ≠ []) : items ≠ [] := by
  rintro rfl
  cases h
  exact hne rfl

end Listing

/-- **The symbols that a list says** are read from its text. -/
theorem splitSymbols_joined {text : String} {items : List (List Char)} {symbols : List String}
    (htext : text.toList = Text.joined ',' items) (h : Listing items symbols) (hne : symbols ≠ [])
    (hsymbols : ∀ s ∈ symbols, s ≠ "" ∧ Text.Trimmed s.toList)
    (hnone : ∀ s ∈ symbols, ',' ∉ s.toList) : splitSymbols text = symbols := by
  rw [splitSymbols_eq, htext,
    Text.fields_joined (h.items_ne_nil hne) (h.comma_not_mem hnone)]
  exact h.filterMap_symbol? hsymbols

/-- A text of blanks only lists nothing. -/
theorem splitSymbols_blank {text : String} (h : Text.isBlankText text.toList = true) :
    splitSymbols text = [] := by
  rw [splitSymbols_eq, Text.fields_of_not_mem (comma_not_mem_blank h),
    List.filterMap_cons_none (symbol?_blank h), List.filterMap_nil]

/-! ## Instruments -/

/-- **Instruments are read from their written forms**, in order. -/
theorem instrumentsOf_names {is : List Instrument} (h : ∀ i ∈ is, i.Canonical) :
    instrumentsOf (is.map Instrument.name) = .ok is := by
  induction is with
  | nil => rfl
  | cons i is ih =>
    have hi : Instrument.parse i.name = .ok i := (h i List.mem_cons_self).parse_name
    have his : instrumentsOf (is.map Instrument.name) = .ok is :=
      ih fun j hj => h j (List.mem_cons_of_mem i hj)
    rw [List.map_cons, instrumentsOf, hi]
    simp only [his]
    rfl

/-- A list of the written forms of instruments is not blank, and they are the symbols in it. -/
theorem splitSymbols_names {text : String} {items : List (List Char)} {is : List Instrument}
    (htext : text.toList = Text.joined ',' items) (hitems : Listing items (is.map Instrument.name))
    (hne : is ≠ []) (his : ∀ i ∈ is, i.Canonical ∧ ',' ∉ i.name.toList) :
    Text.isBlankText text.toList = false ∧ splitSymbols text = is.map Instrument.name := by
  have hnames : is.map Instrument.name ≠ [] := mt List.map_eq_nil_iff.mp hne
  have hsplit : splitSymbols text = is.map Instrument.name := by
    apply splitSymbols_joined htext hitems hnames
    · intro s hs
      obtain ⟨i, hi, rfl⟩ := List.mem_map.mp hs
      exact ⟨i.name_ne_empty, (his i hi).1.trimmed_name⟩
    · intro s hs
      obtain ⟨i, hi, rfl⟩ := List.mem_map.mp hs
      exact (his i hi).2
  refine ⟨?_, hsplit⟩
  -- a blank text would list nothing
  apply Bool.eq_false_iff.mpr
  intro hblank
  apply hnames
  rw [← hsplit, splitSymbols_blank hblank]

/-! ## What the environment says -/

variable {c : FeedConfig} {env : Environment}

/-- A silent variable leaves the symbols as they are. -/
theorem symbols_override_of_silent (h : Silent env "QUOTEBAR_SYMBOLS") :
    (c.override env).symbols = c.symbols := by
  unfold override
  simp only [h.setting, Option.map_none, Option.getD_none]

/-- A list of symbols takes the place of those that were there. -/
theorem symbols_override_of_said {text : String} (h : env "QUOTEBAR_SYMBOLS" = some text)
    (hsaid : Text.isBlankText text.toList = false) :
    (c.override env).symbols = splitSymbols text := by
  unfold override
  simp only [setting_eq_some h hsaid, Option.map_some, Option.getD_some]

/-- **The environment takes away nothing that the checks ask for**: an address that was there stays
or is another one, and the checks ask for nothing else that it could say. -/
theorem Workable.override (h : c.Workable) (env : Environment) : (c.override env).Workable := by
  have hstays : ∀ {said before : Option String}, before ≠ none → said.or before ≠ none := by
    intro said before hbefore hnone
    exact hbefore (Option.or_eq_none_iff.mp hnone).2
  exact ⟨h.url_ne, h.granularities_ne, h.timeout_pos, h.window_pos, h.base_pos, h.base_le,
    h.buffer_pos, h.workers_pos, fun hbackend => hstays (h.redis hbackend),
    fun hbackend => hstays (h.postgres hbackend)⟩

/-- **To say the same again changes nothing.** -/
theorem override_override (c : FeedConfig) (env : Environment) :
    (c.override env).override env = c.override env := by
  have hor : ∀ said before : Option String, said.or (said.or before) = said.or before := by
    intro said before
    rw [← Option.or_assoc, Option.or_self]
  unfold override
  simp only [hor]
  cases setting env "QUOTEBAR_SYMBOLS" with
  | none => rfl
  | some text => rfl

/-- **The environment says what is subscribed, and nothing that it should not.**  Of settings that
pass their checks: a list of the written forms of instruments, none of which has a comma, makes them
the instruments subscribed at the start, in order, whatever blanks are around them and however many
items are empty, and the settings still pass.  A token and two addresses are what their variables
say, and what silent variables would say stays.  Nothing else changes, and to say the same again
changes nothing. -/
theorem override_faithful (c : FeedConfig) (env : Environment) :
    let d := c.override env
    (∀ (is : List Instrument) (items : List (List Char)) (text : String),
      c.validate = .ok () → is ≠ [] → (∀ i ∈ is, i.Canonical ∧ ',' ∉ i.name.toList) →
      Listing items (is.map Instrument.name) → text.toList = Text.joined ',' items →
      env "QUOTEBAR_SYMBOLS" = some text →
        d.instruments = .ok is ∧ d.validate = .ok ()) ∧
    TakenFrom env "QUOTEBAR_AUTH_TOKEN" c.provider.authToken d.provider.authToken ∧
    TakenFrom env "QUOTEBAR_REDIS_URL" c.cache.redisUrl d.cache.redisUrl ∧
    TakenFrom env "QUOTEBAR_DATABASE_URL" c.sink.databaseUrl d.sink.databaseUrl ∧
    (Silent env "QUOTEBAR_SYMBOLS" → d.symbols = c.symbols) ∧
    d = { c with
      provider := { c.provider with authToken := d.provider.authToken }
      cache := { c.cache with redisUrl := d.cache.redisUrl }
      sink := { c.sink with databaseUrl := d.sink.databaseUrl }
      symbols := d.symbols } ∧
    d.override env = d := by
  intro d
  refine ⟨?listed, takenFrom_or _ _ _, takenFrom_or _ _ _, takenFrom_or _ _ _,
    symbols_override_of_silent, rfl, override_override c env⟩
  case listed =>
    intro is items text hvalid hne his hitems htext hsaid
    obtain ⟨hnotBlank, hsplit⟩ := splitSymbols_names htext hitems hne his
    have hinstruments : d.instruments = .ok is := by
      have hcanonical : ∀ i ∈ is, i.Canonical := fun i hi => (his i hi).1
      unfold instruments
      rw [symbols_override_of_said hsaid hnotBlank, hsplit, instrumentsOf_names hcanonical]
    obtain ⟨hworkable, -⟩ := validate_eq_ok_iff.mp hvalid
    exact ⟨hinstruments, validate_eq_ok_iff.mpr ⟨hworkable.override env, is, hinstruments⟩⟩

/-- Settings that need an address for the cache, and have one. -/
def remoteConfig : FeedConfig :=
  { standard with
    cache := { CacheConfig.standard with backend := .redis, redisUrl := some "redis://localhost" }
    symbols := ["nyse:ibm"] }

/-- An environment that lists two instruments with blanks of several kinds and empty items, has a
token, and has blanks in the place of that address. -/
def spacedEnvironment : Environment
  | "QUOTEBAR_SYMBOLS" => some "\u3000ZÜRICH:STRASSE: 1:M ,, \t,NASDAQ:AAPL\n,"
  | "QUOTEBAR_AUTH_TOKEN" => some " secret"
  | "QUOTEBAR_REDIS_URL" => some " \t"
  | _ => none

/-- The two instruments, one with a blank and colons inside its symbol, take the place of another
one; the token is taken as it is, and the address stays. -/
theorem override_faithful_spaced : ∃ is : List Instrument,
    is.map Instrument.name = ["ZÜRICH:STRASSE: 1:M", "NASDAQ:AAPL"] ∧
      remoteConfig.validate = .ok () ∧ is ≠ [] ∧
      (∀ i ∈ is, i.Canonical ∧ ',' ∉ i.name.toList) ∧
      (remoteConfig.override spacedEnvironment).instruments = .ok is ∧
      (remoteConfig.override spacedEnvironment).validate = .ok () ∧
      (remoteConfig.override spacedEnvironment).provider.authToken = some " secret" ∧
      Silent spacedEnvironment "QUOTEBAR_REDIS_URL" ∧
      (remoteConfig.override spacedEnvironment).cache.redisUrl = some "redis://localhost" := by
  let aapl : Instrument := ⟨"NASDAQ", "AAPL", by decide, by decide, by decide⟩
  have hvalid : remoteConfig.validate = .ok () := by decide +kernel
  have hnames : ∀ i ∈ [.strasse, aapl], i.Canonical ∧ ',' ∉ i.name.toList := by
    have hstrasse : Instrument.strasse.Canonical := ⟨"zürich", "straße: 1:m", by decide +kernel⟩
    have haapl : aapl.Canonical := ⟨"NASDAQ", "AAPL", by decide +kernel⟩
    intro i hi
    rcases List.mem_cons.mp hi with rfl | hi
    · exact ⟨hstrasse, by decide⟩
    · rw [List.mem_singleton.mp hi]
      exact ⟨haapl, by decide⟩
  have hlisting : Listing
      [['\u3000'] ++ Instrument.strasse.name.toList ++ [' '], [], [' ', '\t'],
        [] ++ aapl.name.toList ++ ['\n'], []]
      ([.strasse, aapl].map Instrument.name) :=
    .symbol rfl rfl (.blank rfl (.blank rfl (.symbol rfl rfl (.blank rfl .nil))))
  have hsilent : Silent spacedEnvironment "QUOTEBAR_REDIS_URL" := by
    rintro value ⟨⟩
    decide
  obtain ⟨hlisted, htoken, haddress, -⟩ := override_faithful remoteConfig spacedEnvironment
  obtain ⟨hinstruments, hstill⟩ := hlisted [.strasse, aapl] _ _ hvalid (List.cons_ne_nil _ _) hnames
    hlisting (by decide +kernel) rfl
  exact ⟨[.strasse, aapl], by decide, hvalid, List.cons_ne_nil _ _, hnames, hinstruments, hstill,
    htoken.said " secret" rfl (by decide), hsilent, haddress.kept hsilent⟩

end CandleFeed.FeedConfig

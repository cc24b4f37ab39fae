import CandleFeed.Proofs.Market.Echoes

/-!
# Names of instruments

An instrument has one name.  The parts of one that was made are trimmed, in upper case and not empty
(`Canonical.parts`), and upper-casing brings no colon into an exchange, so that its written form is
taken apart where it was put together (`Canonical.parse_name`).

A text is read by what is before and after its first colon (`parse_append`), and it names nothing
exactly if it has no colon or one of the two is blank (`parse_eq_error_iff`).  **`name_laws`** puts
this together with the reading of an instrument from its JSON text.
-/

namespace CandleFeed.Instrument

/-! ## Parts -/

/-- A part of a name is not empty, is trimmed, and is in upper case. -/
structure IsPart (part : String) : Prop where
  nonempty : part ≠ ""
  trimmed : Text.trim part.toList = part.toList
  upper : Text.upper part.toList = part.toList

theorem toList_canonical (part : String) :
    (canonical part).toList = Text.upper (Text.trim part.toList) := by
  unfold canonical
  rw [String.toList_ofList]

/-- The canonical form of a part is empty if trimming leaves nothing. -/
theorem canonical_eq_empty_iff {part : String} :
    canonical part = "" ↔ Text.trim part.toList = [] := by
  rw [← String.toList_eq_nil_iff, toList_canonical, Text.upper_eq_nil_iff]

/-- The canonical form of a part has a colon only if the part does. -/
theorem colon_of_mem_canonical {part : String} (h : ':' ∈ (canonical part).toList) :
    ':' ∈ part.toList := by
  rw [toList_canonical] at h
  exact Text.mem_of_mem_trim (Text.colon_of_mem_upper h)

/-- A canonical form is a part of a name, unless it is empty. -/
theorem isPart_canonical {part : String} (h : canonical part ≠ "") : IsPart (canonical part) := by
  constructor
  · exact h
  · rw [toList_canonical]
    exact (Text.trimmed_trim part.toList).upper.trim
  · rw [toList_canonical, Text.upper_upper]

/-- The parts of an instrument that was made are parts of a name. -/
theorem Canonical.parts {i : Instrument} (h : i.Canonical) :
    IsPart i.exchange ∧ IsPart i.symbol := by
  obtain ⟨exchange, symbol, hmake⟩ := h
  obtain ⟨hexchange, hsymbol⟩ := parts_of_make hmake
  constructor
  · rw [hexchange]
    apply isPart_canonical
    rw [← hexchange]
    exact i.exchange_ne
  · rw [hsymbol]
    apply isPart_canonical
    rw [← hsymbol]
    exact i.symbol_ne

/-- Two parts of which the first has no colon make an instrument, unless one of them is blank. -/
theorem make_eq_error_iff {exchange symbol : String} (hcolon : ':' ∉ exchange.toList) :
    (∃ fault, make exchange symbol = .error fault) ↔
      Text.trim exchange.toList = [] ∨ Text.trim symbol.toList = [] := by
  rw [← canonical_eq_empty_iff, ← canonical_eq_empty_iff]
  have hnone : ':' ∉ (canonical exchange).toList := fun h => hcolon (colon_of_mem_canonical h)
  by_cases hexchange : canonical exchange = ""
  · simp [make, hexchange]
  · by_cases hsymbol : canonical symbol = ""
    · simp [make, hexchange, hsymbol]
    · simp [make, hexchange, hsymbol, hnone]

/-! ## Texts -/

/-- **A text is read by its parts**: what is before its first colon, and what is after it. -/
theorem parse_append {exchange : String} (symbol : String) (hcolon : ':' ∉ exchange.toList) :
    parse (exchange ++ ":" ++ symbol) = make exchange symbol := by
  have htext : (exchange ++ ":" ++ symbol).toList = exchange.toList ++ ':' :: symbol.toList := by
    rw [String.toList_append, String.toList_append, List.append_assoc]
    rfl
  have htake : (exchange.toList ++ ':' :: symbol.toList).takeWhile (· != ':') =
      exchange.toList := by
    rw [List.takeWhile_append_of_pos, List.takeWhile_cons_of_neg (by decide), List.append_nil]
    intro c hc
    apply bne_iff_ne.mpr
    rintro rfl
    exact hcolon hc
  unfold parse
  simp only [htext, htake, List.drop_left, String.ofList_toList]

/-- A text without a colon names nothing. -/
theorem parse_of_not_mem {text : String} (hcolon : ':' ∉ text.toList) :
    parse text = .error (.noSeparator text) := by
  have htake : text.toList.takeWhile (· != ':') = text.toList := by
    rw [List.takeWhile_eq_self_iff]
    intro c hc
    apply bne_iff_ne.mpr
    rintro rfl
    exact hcolon hc
  unfold parse
  simp only [htake, List.drop_length]

/-- A text with a colon has parts before and after its first one. -/
theorem exists_parts {text : String} (hcolon : ':' ∈ text.toList) :
    ∃ exchange symbol : String, text = exchange ++ ":" ++ symbol ∧ ':' ∉ exchange.toList := by
  obtain ⟨before, after, htext, hbefore⟩ := List.eq_append_cons_of_mem hcolon
  refine ⟨String.ofList before, String.ofList after, ?_, ?_⟩
  · apply String.toList_injective
    simp only [htext, String.toList_append, String.toList_ofList, List.append_assoc]
    rfl
  · rw [String.toList_ofList]
    exact hbefore

/-- **A text names nothing** exactly if it has no colon, or a part of it is blank. -/
theorem parse_eq_error_iff {text : String} :
    (∃ fault, parse text = .error fault) ↔
      ':' ∉ text.toList ∨ ∃ exchange symbol : String, text = exchange ++ ":" ++ symbol ∧
        ':' ∉ exchange.toList ∧
        (Text.trim exchange.toList = [] ∨ Text.trim symbol.toList = []) := by
  constructor
  · intro h
    by_cases hcolon : ':' ∈ text.toList
    · obtain ⟨exchange, symbol, rfl, hbefore⟩ := exists_parts hcolon
      rw [parse_append symbol hbefore, make_eq_error_iff hbefore] at h
      exact .inr ⟨exchange, symbol, rfl, hbefore, h⟩
    · exact .inl hcolon
  · rintro (hcolon | ⟨exchange, symbol, rfl, hbefore, hblank⟩)
    · exact ⟨_, parse_of_not_mem hcolon⟩
    · rw [parse_append symbol hbefore]
      exact (make_eq_error_iff hbefore).mpr hblank

/-- **The written form of an instrument names it.** -/
theorem Canonical.parse_name {i : Instrument} (h : i.Canonical) : parse i.name = .ok i := by
  unfold name
  rw [parse_append i.symbol i.no_separator, h.make_parts]

/-- The written form of an instrument has no blanks at its ends. -/
theorem Canonical.trimmed_name {i : Instrument} (h : i.Canonical) : Text.Trimmed i.name.toList := by
  obtain ⟨hexchange, hsymbol⟩ := h.parts
  have hfirst : i.exchange.toList ≠ [] := mt String.toList_eq_nil_iff.mp hexchange.nonempty
  have hlast : i.symbol.toList ≠ [] := mt String.toList_eq_nil_iff.mp hsymbol.nonempty
  rw [toList_name]
  exact (Text.trimmed_of_trim hexchange.trimmed).append (Text.trimmed_of_trim hsymbol.trimmed)
    hfirst hlast [':']

/-- An instrument is read from its JSON text. -/
theorem Canonical.readsBack {i : Instrument} (h : i.Canonical) :
    (Json.read i.toJson.render).bind ofJson? = some i :=
  Json.readsBack i.plain_toJson h.ofJson?_toJson

/-- **An instrument has one name.**  Whether it was made of two parts or read from a text, its parts
are trimmed, in upper case and not empty, its exchange has no colon, and its written form, its parts
and its JSON text all give it back; instruments with the same written form are equal; and a text is
read by the parts before and after its first colon, and is refused exactly if it has none or one of
the two is blank. -/
theorem name_laws :
    (∀ i : Instrument,
      ((∃ exchange symbol, make exchange symbol = .ok i) ∨ ∃ text, parse text = .ok i) →
        IsPart i.exchange ∧ IsPart i.symbol ∧ ':' ∉ i.exchange.toList ∧
          parse i.name = .ok i ∧ make i.exchange i.symbol = .ok i ∧
          (Json.read i.toJson.render).bind ofJson? = some i) ∧
    (∀ i j : Instrument, i.name = j.name → i = j) ∧
    (∀ exchange symbol : String, ':' ∉ exchange.toList →
      parse (exchange ++ ":" ++ symbol) = make exchange symbol) ∧
    ∀ text : String, (∃ fault, parse text = .error fault) ↔
      ':' ∉ text.toList ∨ ∃ exchange symbol : String, text = exchange ++ ":" ++ symbol ∧
        ':' ∉ exchange.toList ∧
        (Text.trim exchange.toList = [] ∨ Text.trim symbol.toList = []) := by
  refine ⟨?laws, ?oneName, ?parts, ?refused⟩
  case laws =>
    intro i hmade
    have hcanonical : i.Canonical := by
      rcases hmade with hmake | ⟨text, hparse⟩
      · exact hmake
      · exact canonical_of_parse hparse
    obtain ⟨hexchange, hsymbol⟩ := hcanonical.parts
    exact ⟨hexchange, hsymbol, i.no_separator, hcanonical.parse_name, hcanonical.make_parts,
      hcanonical.readsBack⟩
  case oneName =>
    intro i j hname
    exact name_injective hname
  case parts =>
    intro exchange symbol hcolon
    exact parse_append symbol hcolon
  case refused =>
    intro text
    exact parse_eq_error_iff

/-- The instrument of two spellings: its symbol has colons, and a letter that became two. -/
def strasse : Instrument := ⟨"ZÜRICH", "STRASSE: 1:M", by decide, by decide, by decide⟩

/-- Two spellings name it; one has blanks around its parts that are no spaces. -/
theorem name_laws_twoSpellings :
    make " ZüRICH" "Strasse: 1:M\n" = .ok strasse ∧
      parse "\u3000zürich\t:straße: 1:m " = .ok strasse ∧
      (IsPart strasse.exchange ∧ IsPart strasse.symbol ∧ ':' ∉ strasse.exchange.toList ∧
        parse strasse.name = .ok strasse ∧
        make strasse.exchange strasse.symbol = .ok strasse ∧
        (Json.read strasse.toJson.render).bind ofJson? = some strasse) ∧
      (∀ j : Instrument, j.name = "ZÜRICH:STRASSE: 1:M" → j = strasse) ∧
      ':' ∉ "\u3000zürich\t".toList ∧
      parse ("\u3000zürich\t" ++ ":" ++ "straße: 1:m ") = make "\u3000zürich\t" "straße: 1:m " ∧
      ∃ fault, parse "\u3000:straße" = .error fault := by
  obtain ⟨hlaws, honeName, hparts, hrefused⟩ := name_laws
  have hparse : parse "\u3000zürich\t:straße: 1:m " = .ok strasse := by decide +kernel
  have hcolon : ':' ∉ "\u3000zürich\t".toList := by decide
  refine ⟨by decide +kernel, hparse, hlaws strasse (.inr ⟨_, hparse⟩), ?name, hcolon,
    hparts _ _ hcolon, (hrefused _).mpr (.inr ⟨"\u3000", "straße", ?blank⟩)⟩
  case name =>
    intro j hname
    exact honeName j strasse hname
  case blank => decide +kernel

end CandleFeed.Instrument

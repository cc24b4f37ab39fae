import CandleFeed.Text.Blank
import CandleFeed.Text.Case

/-!
# Instruments

An **`Instrument`** is named by an exchange and a symbol, written `NASDAQ:AAPL`.  Names are
canonical: trimmed and in upper case, so that two spellings of one instrument are equal.
**`Instrument.make`** builds one from its two parts, **`Instrument.parse`** from the written form,
whose first colon separates them; the symbol may hold colons, the exchange may not.  Instruments are
ordered by exchange and then by symbol.

An **`InstrumentFault`** says what is wrong with a name and carries what its message shows.
-/

namespace CandleFeed

/-- What is wrong with the name of an instrument. -/
inductive InstrumentFault where
  /-- The text has no colon. -/
  | noSeparator (text : String)
  /-- A part is empty once the blanks around it are gone. -/
  | emptyPart (exchange symbol : String)
  /-- The exchange has a colon. -/
  | separatorInExchange (exchange : String)
deriving DecidableEq, Repr

namespace InstrumentFault

/-- The message for a fault. -/
def message : InstrumentFault → String
  | noSeparator text => "invalid instrument: expected EXCHANGE:SYMBOL, got '" ++ text ++ "'"
  | emptyPart exchange symbol =>
    "invalid instrument: exchange and symbol must be non-empty (got '" ++ exchange ++ ":" ++
      symbol ++ "')"
  | separatorInExchange exchange =>
    "invalid instrument: exchange may not contain ':' (got '" ++ exchange ++ "')"

end InstrumentFault

/-- The name of an instrument. -/
structure Instrument where
  /-- The exchange. -/
  exchange : String
  /-- The symbol on that exchange. -/
  symbol : String
  exchange_ne : exchange ≠ ""
  symbol_ne : symbol ≠ ""
  no_separator : ':' ∉ exchange.toList
deriving DecidableEq

namespace Instrument

/-- The canonical form of a part: trimmed, in upper case. -/
def canonical (part : String) : String := String.ofList (Text.upper (Text.trim part.toList))

/-- The instrument with the given parts. -/
def make (exchange symbol : String) : Except InstrumentFault Instrument :=
  let e := canonical exchange
  let s := canonical symbol
  if he : e = "" then .error (.emptyPart e s)
  else if hs : s = "" then .error (.emptyPart e s)
  else if hc : ':' ∈ e.toList then .error (.separatorInExchange e)
  else .ok ⟨e, s, he, hs, hc⟩

/-- The instrument that a text names. -/
def parse (text : String) : Except InstrumentFault Instrument :=
  let cs := text.toList
  let exchange := cs.takeWhile (· != ':')
  match cs.drop exchange.length with
  | [] => .error (.noSeparator text)
  | _ :: symbol => make (String.ofList exchange) (String.ofList symbol)

/-- The written form. -/
def name (i : Instrument) : String := i.exchange ++ ":" ++ i.symbol

/-- By exchange, then by symbol. -/
instance : Ord Instrument := ⟨compareLex (compareOn exchange) (compareOn symbol)⟩

instance : Std.TransOrd Instrument :=
  inferInstanceAs (Std.TransCmp (compareLex (compareOn exchange) (compareOn symbol)))

instance : Std.LawfulEqOrd Instrument where
  eq_of_compare {a b} h := by
    obtain ⟨hexchange, hsymbol⟩ := Ordering.then_eq_eq.mp h
    cases a
    cases b
    cases Std.LawfulEqOrd.eq_of_compare hexchange
    cases Std.LawfulEqOrd.eq_of_compare hsymbol
    rfl

/-- No later in the order of instruments. -/
def le (a b : Instrument) : Bool := (compare a b).isLE

end Instrument

end CandleFeed

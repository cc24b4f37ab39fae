import CandleFeed.Market.Instrument
import CandleFeed.Proofs.Text.Case

/-!
# Instruments are canonical

**`Instrument.Canonical`** says that an instrument was built from two parts.  Its own parts then
build it again (`Canonical.make_parts`): making a name canonical twice is the same as doing it once
(`canonical_canonical`), for every character that names may hold.

An exchange has no colon, so the first one of a written form stands after it, and the written form
tells the instrument (`name_injective`).
-/

namespace CandleFeed

/-- The part before the first colon tells what is before and what is after it. -/
theorem append_colon_injective {e e' s s' : List Char} (he : ':' ∉ e) (he' : ':' ∉ e')
    (h : e ++ ':' :: s = e' ++ ':' :: s') : e = e' ∧ s = s' := by
  induction e generalizing e' with
  | nil =>
    cases e' with
    | nil => exact ⟨rfl, (List.cons.inj h).2⟩
    | cons c' e' => exact absurd ((List.cons.inj h).1 ▸ List.mem_cons_self) he'
  | cons c e ih =>
    cases e' with
    | nil => exact absurd ((List.cons.inj h).1 ▸ List.mem_cons_self) he
    | cons c' e' =>
      obtain ⟨rfl, hrest⟩ := List.cons.inj h
      obtain ⟨rfl, rfl⟩ := ih (fun hmem => he (List.mem_cons_of_mem _ hmem))
        (fun hmem => he' (List.mem_cons_of_mem _ hmem)) hrest
      exact ⟨rfl, rfl⟩

namespace Instrument

/-- The instrument was built from two parts. -/
def Canonical (i : Instrument) : Prop := ∃ exchange symbol, make exchange symbol = .ok i

/-- An instrument that a text names was built from two parts. -/
theorem canonical_of_parse {text : String} {i : Instrument} (h : parse text = .ok i) :
    i.Canonical := by
  unfold parse at h
  simp only at h
  split at h
  · exact absurd h (by simp)
  · exact ⟨_, _, h⟩

/-- **The canonical form of a part is canonical.** -/
theorem canonical_canonical (part : String) : canonical (canonical part) = canonical part := by
  unfold canonical
  rw [String.toList_ofList, Text.upper_trim_upper_trim]

/-- An instrument has the canonical forms of the parts that it is built from. -/
theorem parts_of_make {exchange symbol : String} {i : Instrument}
    (h : make exchange symbol = .ok i) :
    i.exchange = canonical exchange ∧ i.symbol = canonical symbol := by
  simp only [make] at h
  split at h
  · exact absurd h nofun
  · split at h
    · exact absurd h nofun
    · split at h
      · exact absurd h nofun
      · cases h
        exact ⟨rfl, rfl⟩

/-- An instrument whose parts are in canonical form is built from them. -/
theorem make_eq_ok {i : Instrument} (hexchange : canonical i.exchange = i.exchange)
    (hsymbol : canonical i.symbol = i.symbol) : make i.exchange i.symbol = .ok i := by
  simp only [make, hexchange, hsymbol, i.exchange_ne, i.symbol_ne, i.no_separator, dite_false]

/-- **The parts of an instrument build it again.** -/
theorem Canonical.make_parts {i : Instrument} (h : i.Canonical) :
    make i.exchange i.symbol = .ok i := by
  obtain ⟨exchange, symbol, hmake⟩ := h
  obtain ⟨hexchange, hsymbol⟩ := parts_of_make hmake
  refine make_eq_ok ?_ ?_
  · rw [hexchange, canonical_canonical]
  · rw [hsymbol, canonical_canonical]

/-! ## Written forms -/

/-- The characters of a written form. -/
theorem toList_name (i : Instrument) :
    i.name.toList = i.exchange.toList ++ ':' :: i.symbol.toList := by
  unfold name
  rw [String.toList_append, String.toList_append, List.append_assoc]
  rfl

/-- No written form is empty. -/
theorem name_ne_empty (i : Instrument) : i.name ≠ "" := by
  rw [ne_eq, ← String.toList_eq_nil_iff, toList_name]
  exact List.append_ne_nil_of_right_ne_nil _ (List.cons_ne_nil _ _)

/-- The parts of an instrument tell it. -/
theorem eq_of_parts {i j : Instrument} (hexchange : i.exchange = j.exchange)
    (hsymbol : i.symbol = j.symbol) : i = j := by
  cases i
  cases j
  cases hexchange
  cases hsymbol
  rfl

/-- **The written form tells the instrument.** -/
theorem name_injective {i j : Instrument} (h : i.name = j.name) : i = j := by
  have hlist := congrArg String.toList h
  rw [toList_name, toList_name] at hlist
  obtain ⟨hexchange, hsymbol⟩ := append_colon_injective i.no_separator j.no_separator hlist
  exact eq_of_parts (String.toList_injective hexchange) (String.toList_injective hsymbol)

end Instrument

end CandleFeed

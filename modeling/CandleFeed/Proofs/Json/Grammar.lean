import CandleFeed.Proofs.Json.Numbers

/-!
# Every number that is written is one

Decimals are written plainly or with an exponent, and whole numbers in their digits.  Whatever the
value, the text is a number by the grammar (**`exists_reads_intText`** and
**`exists_reads_floatText`**).  What it denotes is another question.  A floating-point value never
reads as a whole number, as its text has a fraction or an exponent.

How far a number has been read is all that the grammar goes by.  **`NumberText.Goes`** says that a
text leads from one such part to another, whichever the digits are.
-/

namespace CandleFeed.Json

namespace NumberText

variable {p q r : NumberPart} {cs cs' : List Char}

/-- From one part of a number a text leads to another. -/
def Goes (p : NumberPart) (cs : List Char) (q : NumberPart) : Prop :=
  ∀ t : NumberText, t.part = p → ∃ t', t.pushAll cs = some t' ∧ t'.part = q

theorem Goes.nil (p : NumberPart) : Goes p [] p := fun t ht => ⟨t, rfl, ht⟩

theorem Goes.append (h : Goes p cs q) (h' : Goes q cs' r) : Goes p (cs ++ cs') r := by
  intro t ht
  obtain ⟨t', hpush, ht'⟩ := h t ht
  obtain ⟨t'', hpush', ht''⟩ := h' t' ht'
  refine ⟨t'', ?_, ht''⟩
  rw [pushAll, List.foldlM_append, ← pushAll, hpush]
  exact hpush'

/-- A character leads on where a number may go on with it. -/
theorem goes_char {c : Char}
    (h : ∀ t : NumberText, t.part = p → (t.push? c).map (·.part) = some q) : Goes p [c] q := by
  intro t ht
  obtain ⟨t', hpush, ht'⟩ := Option.map_eq_some_iff.mp (h t ht)
  exact ⟨t', by rw [pushAll, List.foldlM_cons, hpush]; rfl, ht'⟩

/-- More digits lead nowhere else. -/
theorem goes_digits (h : ∀ d, d.isDigit = true → Goes p [d] p) (hcs : ∀ d ∈ cs, d.isDigit = true) :
    Goes p cs p := by
  induction cs with
  | nil => exact .nil p
  | cons d ds ih =>
    exact (h d (hcs d List.mem_cons_self)).append
      (ih fun d' hd' => hcs d' (List.mem_cons_of_mem _ hd'))

theorem goes_whole {d : Char} (hd : d.isDigit = true) : Goes .whole [d] .whole :=
  goes_char fun t ht => by simp [push?, ht, hd]

theorem goes_point (hp : p = .zero ∨ p = .whole) : Goes p ['.'] .point :=
  goes_char fun t ht => by rcases hp with rfl | rfl <;> simp [push?, ht]

theorem goes_fraction (hp : p = .point ∨ p = .fraction) {d : Char} (hd : d.isDigit = true) :
    Goes p [d] .fraction :=
  goes_char fun t ht => by rcases hp with rfl | rfl <;> simp [push?, ht, hd]

theorem goes_mark (hp : p = .whole ∨ p = .fraction) : Goes p ['e'] .mark :=
  goes_char fun t ht => by rcases hp with rfl | rfl <;> simp [push?, ht]

theorem goes_markSign {c : Char} (hc : c = '+' ∨ c = '-') : Goes .mark [c] .markSign :=
  goes_char fun t ht => by rcases hc with rfl | rfl <;> simp [push?, ht]

theorem goes_power (hp : p = .markSign ∨ p = .power) {d : Char} (hd : d.isDigit = true) :
    Goes p [d] .power :=
  goes_char fun t ht => by rcases hp with rfl | rfl <;> simp [push?, ht, hd]

/-- A fraction has digits, at least one. -/
theorem goes_fractionDigits {ds : List Char} (hne : ds ≠ []) (hds : ∀ d ∈ ds, d.isDigit = true) :
    Goes .point ds .fraction := by
  obtain ⟨d, ds, rfl⟩ := List.exists_cons_of_ne_nil hne
  exact (goes_fraction (.inl rfl) (hds d List.mem_cons_self)).append
    (goes_digits (fun d hd => goes_fraction (.inr rfl) hd)
      fun d' hd' => hds d' (List.mem_cons_of_mem _ hd'))

/-- An exponent has a sign and digits, at least one. -/
theorem goes_exponent (hp : p = .whole ∨ p = .fraction) {c : Char} (hc : c = '+' ∨ c = '-')
    {ds : List Char} (hne : ds ≠ []) (hds : ∀ d ∈ ds, d.isDigit = true) :
    Goes p (['e', c] ++ ds) .power := by
  obtain ⟨d, ds, rfl⟩ := List.exists_cons_of_ne_nil hne
  have hsign : Goes p ['e', c] .markSign := (goes_mark hp).append (goes_markSign hc)
  exact (hsign.append (goes_power (.inl rfl) (hds d List.mem_cons_self))).append
    (goes_digits (fun d hd => goes_power (.inr rfl) hd)
      fun d' hd' => hds d' (List.mem_cons_of_mem _ hd'))

/-! ## Texts without a sign -/

/-- A number begins with the character, which leads to the part. -/
def Begins (c : Char) (p : NumberPart) : Prop :=
  c = '0' ∧ p = .zero ∨ c ≠ '0' ∧ c.isDigit = true ∧ p = .whole

/-- A text is a number without a sign, and ends in the part. -/
def Unsigned (cs : List Char) (q : NumberPart) : Prop :=
  ∃ c rest p, cs = c :: rest ∧ Begins c p ∧ Goes p rest q

theorem Unsigned.append (h : Unsigned cs p) (h' : Goes p cs' q) : Unsigned (cs ++ cs') q := by
  obtain ⟨c, rest, p', rfl, hbegins, hgoes⟩ := h
  exact ⟨c, rest ++ cs', p', rfl, hbegins, hgoes.append h'⟩

/-- The digits of a number are such a text. -/
theorem unsigned_natText (n : Nat) : ∃ p, (p = .zero ∨ p = .whole) ∧ Unsigned (natText n) p := by
  rcases Nat.eq_zero_or_pos n with rfl | hpos
  · exact ⟨.zero, .inl rfl, '0', [], .zero, rfl, .inl ⟨rfl, rfl⟩, .nil _⟩
  · obtain ⟨d, ds, htext, hzero, hd, hds, -⟩ := natText_cons hpos
    exact ⟨.whole, .inr rfl, d, ds, .whole, htext, .inr ⟨hzero, hd, rfl⟩,
      goes_digits (fun d hd => goes_whole hd) hds⟩

/-- With a sign or without one, such a text can be read. -/
theorem Unsigned.signed (h : Unsigned cs q) (negative : Bool) :
    ∃ c rest t t', (if negative then '-' :: cs else cs) = c :: rest ∧ start? c = some t ∧
      t.pushAll rest = some t' ∧ t'.part = q := by
  obtain ⟨c, rest, p, rfl, hbegins, hgoes⟩ := h
  cases negative with
  | true =>
    have hsign : Goes .sign [c] p := by
      refine goes_char fun t ht => ?_
      rcases hbegins with ⟨rfl, rfl⟩ | ⟨hzero, hd, rfl⟩
      · simp [push?, ht]
      · simp [push?, ht, hzero, hd]
    obtain ⟨t', hpush, ht'⟩ := hsign.append hgoes ⟨true, .none, false, 0, .sign⟩ rfl
    exact ⟨'-', c :: rest, _, t', rfl, rfl, hpush, ht'⟩
  | false =>
    have hstart : ∃ t, start? c = some t ∧ t.part = p := by
      rcases hbegins with ⟨rfl, rfl⟩ | ⟨hzero, hd, rfl⟩
      · exact ⟨_, rfl, rfl⟩
      · have hminus : c ≠ '-' := by
          rintro rfl
          exact absurd hd (by decide)
        exact ⟨_, by simp only [start?, beq_iff_eq, hminus, hzero, if_false, hd, if_true]; rfl, rfl⟩
    obtain ⟨t, hstart, ht⟩ := hstart
    obtain ⟨t', hpush, ht'⟩ := hgoes t ht
    exact ⟨c, rest, t, t', rfl, hstart, hpush, ht'⟩

/-- All digits of a number are digits. -/
theorem isDigit_of_mem_natText {n : Nat} {d : Char} (h : d ∈ natText n) : d.isDigit = true :=
  Frame.isDigit_of_mem_lengthDigits h

theorem natText_ne_nil (n : Nat) : natText n ≠ [] := Nat.toDigits_ne_nil

/-- Zeros are digits. -/
theorem isDigit_of_mem_zeros {n : Nat} {d : Char} (h : d ∈ List.replicate n '0') :
    d.isDigit = true := (List.eq_of_mem_replicate h).symm ▸ rfl

/-- **A decimal is written with a fraction or an exponent.** -/
theorem unsigned_decimalText (d : Decimal) :
    ∃ q, (q = .fraction ∨ q = .power) ∧ Unsigned (decimalText d) q := by
  have hzero : Unsigned ['0', '.'] .point :=
    ⟨'0', ['.'], .zero, rfl, .inl ⟨rfl, rfl⟩, goes_point (.inl rfl)⟩
  have hfraction : ∀ ds : List Char, ds ≠ [] → (∀ d ∈ ds, d.isDigit = true) →
      Unsigned ('0' :: '.' :: ds) .fraction :=
    fun ds hne hds => hzero.append (goes_fractionDigits hne hds)
  simp only [decimalText, beq_iff_eq]
  split
  · exact ⟨.fraction, .inl rfl, hfraction ['0'] (List.cons_ne_nil _ _)
      (List.forall_mem_singleton.mpr rfl)⟩
  · rename_i hdigits
    obtain ⟨c, ds, htext, hc, hcdigit, hds, -⟩ := natText_cons (Nat.pos_of_ne_zero hdigits)
    have hwhole : ∀ ds' : List Char, (∀ d ∈ ds', d.isDigit = true) → Unsigned (c :: ds') .whole :=
      fun ds' hds' => ⟨c, ds', .whole, rfl, .inr ⟨hc, hcdigit, rfl⟩,
        goes_digits (fun d hd => goes_whole hd) hds'⟩
    have hpoint : ∀ ds' more : List Char, (∀ d ∈ ds', d.isDigit = true) → more ≠ [] →
        (∀ d ∈ more, d.isDigit = true) → Unsigned (c :: ds' ++ '.' :: more) .fraction :=
      fun ds' more hds' hne hmore => (hwhole ds' hds').append
        ((goes_point (.inr rfl)).append (goes_fractionDigits hne hmore))
    rw [htext]
    split
    · split
      · -- zeros after the digits, and a fraction of zero
        refine ⟨.fraction, .inl rfl, hpoint (ds ++ List.replicate d.exponent.toNat '0') ['0'] ?_
          (List.cons_ne_nil _ _) (List.forall_mem_singleton.mpr rfl)⟩
        exact List.forall_mem_append.mpr ⟨hds, fun d hd => isDigit_of_mem_zeros hd⟩
      · split
        · -- the point among the digits
          rename_i hplain hexponent hleading
          obtain ⟨n, hn⟩ : ∃ n, (↑(c :: ds).length - 1 + d.exponent + 1 : Int).toNat = n + 1 :=
            ⟨(↑(c :: ds).length - 1 + d.exponent : Int).toNat, by omega⟩
          rw [hn, List.take_succ_cons, List.drop_succ_cons]
          have hrest : ds.drop n ≠ [] := by
            rw [ne_eq, List.drop_eq_nil_iff]
            rw [List.length_cons] at hn
            omega
          exact ⟨.fraction, .inl rfl, hpoint _ _ (fun d hd => hds d (List.mem_of_mem_take hd)) hrest
            fun d hd => hds d (List.mem_of_mem_drop hd)⟩
        · -- zeros before the digits
          refine ⟨.fraction, .inl rfl, hfraction _ (by simp) ?_⟩
          exact List.forall_mem_append.mpr ⟨fun d hd => isDigit_of_mem_zeros hd,
            List.forall_mem_cons.mpr ⟨hcdigit, hds⟩⟩
    · -- with an exponent
      refine ⟨.power, .inr rfl, ?_⟩
      have hexponent : ∀ p, p = .whole ∨ p = .fraction →
          ∀ (small : Prop) [Decidable small] (n : Nat),
            Goes p ((if small then "e-".toList else "e+".toList) ++ natText n) .power := by
        intro p hp small _ n
        have hdigits : ∀ d ∈ natText n, d.isDigit = true := fun d hd => isDigit_of_mem_natText hd
        split
        · exact goes_exponent hp (.inr rfl) (natText_ne_nil n) hdigits
        · exact goes_exponent hp (.inl rfl) (natText_ne_nil n) hdigits
      rw [List.append_assoc]
      cases ds with
      | nil => exact (hwhole [] hds).append (hexponent .whole (.inl rfl) _ _)
      | cons d ds =>
        have hmantissa : Unsigned (c :: '.' :: d :: ds) .fraction :=
          hpoint [] (d :: ds) (by simp) (List.cons_ne_nil _ _) hds
        exact hmantissa.append (hexponent .fraction (.inr rfl) _ _)

/-! ## What numbers denote -/

/-- A number with a fraction or an exponent denotes a floating-point value, or is too large. -/
theorem finish?_of_fraction {t : NumberText} (h : t.part = .fraction ∨ t.part = .power) :
    ∃ v, t.finish? = some v ∧ ((∃ x, v = .float x) ∨ v = .unreadable) := by
  unfold finish?
  rcases h with h | h
  all_goals
    simp only [h]
    refine ⟨_, rfl, ?_⟩
    split
    · exact .inl ⟨_, rfl⟩
    · exact .inr rfl

/-- A whole number denotes something. -/
theorem finish?_of_whole {t : NumberText} (h : t.part = .zero ∨ t.part = .whole) :
    ∃ v, t.finish? = some v := by
  unfold finish?
  rcases h with h | h
  all_goals
    simp only [h]
    repeat' split
    all_goals exact ⟨_, rfl⟩

end NumberText

open NumberText

/-- **A whole number is written as a number**, however large. -/
theorem exists_reads_intText (n : Int) : ∃ v, Reads (intText n) v := by
  obtain ⟨p, hp, hunsigned⟩ := unsigned_natText n.natAbs
  obtain ⟨c, rest, t, t', htext, hstart, hpush, hpart⟩ := hunsigned.signed (decide (n < 0))
  obtain ⟨v, hfinish⟩ := finish?_of_whole (hpart ▸ hp)
  refine ⟨v, c, rest, t, t', ?_, hstart, hpush, hfinish⟩
  rw [← htext, intText]
  simp only [decide_eq_true_eq]

/-- **A floating-point value is written as a number**, which denotes no whole number. -/
theorem exists_reads_floatText (x : Float) :
    ∃ v, Reads (floatText x) v ∧ ((∃ y, v = .float y) ∨ v = .unreadable) := by
  obtain ⟨q, hq, hunsigned⟩ := unsigned_decimalText (Decimal.shortest x)
  obtain ⟨c, rest, t, t', htext, hstart, hpush, hpart⟩ :=
    hunsigned.signed (Binary64.ofFloat x).negative
  obtain ⟨v, hfinish, hv⟩ := finish?_of_fraction (hpart ▸ hq)
  exact ⟨v, ⟨c, rest, t, t', htext, hstart, hpush, hfinish⟩, hv⟩

end CandleFeed.Json

import Mathlib.Data.List.DropRight
import CandleFeed.Text.Blank
import CandleFeed.Text.Case

/-!
# Names that are trimmed and in upper case

What upper-casing makes of a character does not change again, and it is blank only if the character
was (`upperChar_of_mem`).  The character set has over a thousand characters that change, so this is
checked on their runs: no run of images has a character in common with a run of characters that
change or are blank (`images_apart`).

So upper-casing a text twice is the same as doing it once (`upper_upper`), and a text that has been
trimmed has no blanks at its ends in upper case either (`Trimmed.upper`).  Blanks around a text do
not count (`Trimmed.trim_between`).
-/

namespace CandleFeed.Text

/-! ## Runs of characters -/

namespace CaseRun

/-- The run of one character. -/
def single (n : Nat) : CaseRun := ⟨n, n, 1, 0⟩

/-- What the characters of a run become. -/
def image (r : CaseRun) : CaseRun :=
  ⟨(r.first + r.shift).toNat, (r.last + r.shift).toNat, r.step, 0⟩

/-- A sign that two runs have no character in common: one ends before the other begins, or they
alternate. -/
def apart (r q : CaseRun) : Bool :=
  Nat.blt r.last q.first || Nat.blt q.last r.first ||
    ((Nat.beq r.step 2 || Nat.beq r.first r.last) && Nat.beq q.step 2 &&
      Nat.beq ((r.first + q.first) % 2) 1)

theorem contains_iff (r : CaseRun) (n : Nat) :
    r.contains n = true ↔ r.first ≤ n ∧ n ≤ r.last ∧ (n - r.first) % r.step = 0 := by
  simp only [contains, Bool.and_eq_true, decide_eq_true_eq, beq_iff_eq, and_assoc]

theorem contains_single (n : Nat) : (single n).contains n = true := by
  simp [contains_iff, single]

/-- Such runs have no character in common. -/
theorem contains_eq_false_of_apart {r q : CaseRun} (h : r.apart q = true) {n : Nat}
    (hr : r.contains n = true) : q.contains n = false := by
  rw [contains_iff] at hr
  refine Bool.eq_false_iff.mpr fun hq => ?_
  rw [contains_iff] at hq
  simp only [apart, Bool.or_eq_true, Bool.and_eq_true, Nat.blt_eq, Nat.beq_eq] at h
  rcases h with (hbefore | hafter) | ⟨⟨htwo | hone, htwo'⟩, hodd⟩
  · omega
  · omega
  · rw [htwo] at hr
    rw [htwo'] at hq
    omega
  · rw [htwo'] at hq
    omega

/-- A character of a run becomes one of its image. -/
theorem contains_image {r : CaseRun} {n : Nat} (h : r.contains n = true)
    (hpos : 0 ≤ r.first + r.shift) : r.image.contains (Int.toNat (n + r.shift)) = true := by
  rw [contains_iff] at h ⊢
  have hoffset : Int.toNat (n + r.shift) - (r.first + r.shift).toNat = n - r.first := by omega
  refine ⟨?_, ?_, ?_⟩
  · simp only [image]
    omega
  · simp only [image]
    omega
  · simp only [image]
    rw [hoffset]
    exact h.2.2

end CaseRun

/-- The blank characters. -/
def blankRuns : List CaseRun :=
  [⟨0x9, 0xD, 1, 0⟩, .single 0x20, .single 0x85, .single 0xA0, .single 0x1680,
    ⟨0x2000, 0x200A, 1, 0⟩, .single 0x2028, .single 0x2029, .single 0x202F, .single 0x205F,
    .single 0x3000]

/-- The characters that upper-casing changes, and the blank ones. -/
def unsettled : List CaseRun :=
  upperRuns ++ upperExpansions.map (fun e => .single e.1) ++ blankRuns

/-- What upper-casing changes characters into. -/
def images : List CaseRun :=
  upperRuns.map CaseRun.image ++ upperExpansions.flatMap fun e => e.2.map CaseRun.single

/-- **Nothing that upper-casing changes a character into changes again or is blank.** -/
theorem images_apart : (images.all fun r => unsettled.all r.apart) = true := by decide +kernel

theorem upperRuns_nonneg : ∀ r ∈ upperRuns, 0 ≤ r.first + r.shift := by decide +kernel

theorem upperExpansions_ne_nil : ∀ e ∈ upperExpansions, e.2 ≠ [] := by decide +kernel

/-! ## Characters -/

/-- Upper-casing leaves the character alone, and it is not blank. -/
def Settled (c : Char) : Prop := ∀ q ∈ unsettled, q.contains c.toNat = false

theorem Settled.upperChar {c : Char} (h : Settled c) : upperChar c = [c] := by
  have hruns : upperRuns.find? (·.contains c.toNat) = none :=
    List.find?_eq_none.mpr fun q hq => by
      rw [h q (by simp [unsettled, hq])]
      decide
  have hexpansions : upperExpansions.find? (·.1 == c.toNat) = none :=
    List.find?_eq_none.mpr fun e he hkey => by
      have hnot := h (.single e.1)
        (List.mem_append_left _ (List.mem_append_right _ (List.mem_map.mpr ⟨e, he, rfl⟩)))
      rw [eq_of_beq hkey, CaseRun.contains_single] at hnot
      exact absurd hnot (by decide)
  simp only [Text.upperChar, changeCase, hruns, hexpansions]

theorem isBlank_iff (c : Char) :
    isBlank c = true ↔ ∃ q ∈ blankRuns, q.contains c.toNat = true := by
  simp only [blankRuns, List.mem_cons, List.not_mem_nil, or_false, exists_eq_or_imp,
    exists_eq_left, CaseRun.contains_iff, CaseRun.single, isBlank, Bool.or_eq_true,
    Bool.and_eq_true, decide_eq_true_eq, beq_iff_eq]
  omega

theorem Settled.isBlank {c : Char} (h : Settled c) : isBlank c = false := by
  refine Bool.eq_false_iff.mpr fun hblank => ?_
  obtain ⟨q, hq, hc⟩ := (isBlank_iff c).mp hblank
  rw [h q (List.mem_append_right _ hq)] at hc
  exact absurd hc (by decide)

/-- A number that is not a character's stands for the first character. -/
theorem toNat_ofNat (n : Nat) : (Char.ofNat n).toNat = n ∨ (Char.ofNat n).toNat = 0 := by
  by_cases h : n.isValidChar
  · refine .inl ?_
    rw [Char.ofNat, dif_pos h]
    rfl
  · refine .inr ?_
    rw [Char.ofNat, dif_neg h]
    rfl

theorem unsettled_zero : ∀ q ∈ unsettled, q.contains 0 = false := by decide +kernel

/-- What upper-casing changes characters into is settled. -/
theorem settled_of_images {r : CaseRun} (hr : r ∈ images) {n : Nat} (h : r.contains n = true) :
    Settled (Char.ofNat n) := by
  intro q hq
  have hapart := List.all_eq_true.mp (List.all_eq_true.mp images_apart r hr) q hq
  rcases toNat_ofNat n with hn | hn
  · rw [hn]
    exact CaseRun.contains_eq_false_of_apart hapart h
  · rw [hn]
    exact unsettled_zero q hq

/-- Upper-casing leaves a character alone, or changes it into images. -/
theorem upperChar_images (c : Char) :
    upperChar c = [c] ∨ upperChar c ≠ [] ∧
      ∀ d ∈ upperChar c, ∃ r ∈ images, ∃ n, r.contains n = true ∧ d = Char.ofNat n := by
  unfold upperChar changeCase
  split
  · rename_i r hfind
    have hr := List.mem_of_find?_eq_some hfind
    have hin : r.contains c.toNat = true := by simpa using List.find?_some hfind
    have himage := CaseRun.contains_image hin (upperRuns_nonneg r hr)
    refine .inr ⟨List.cons_ne_nil _ _, fun d hd => ?_⟩
    exact ⟨_, List.mem_append_left _ (List.mem_map_of_mem hr), _, himage, List.mem_singleton.mp hd⟩
  · split
    · rename_i e hfind
      have he := List.mem_of_find?_eq_some hfind
      refine .inr ⟨fun hnil => upperExpansions_ne_nil e he (List.map_eq_nil_iff.mp hnil), ?_⟩
      intro d hd
      obtain ⟨n, hn, rfl⟩ := List.mem_map.mp hd
      have himage : CaseRun.single n ∈ images :=
        List.mem_append_right _ (List.mem_flatMap.mpr ⟨e, he, List.mem_map_of_mem hn⟩)
      exact ⟨_, himage, n, CaseRun.contains_single n, rfl⟩
    · exact .inl rfl

/-- Upper-casing leaves a character alone, or changes it into settled ones. -/
theorem upperChar_cases (c : Char) :
    upperChar c = [c] ∨ upperChar c ≠ [] ∧ ∀ d ∈ upperChar c, Settled d := by
  rcases upperChar_images c with hsame | ⟨hne, himages⟩
  · exact .inl hsame
  · refine .inr ⟨hne, ?_⟩
    intro d hd
    obtain ⟨r, hr, n, hn, rfl⟩ := himages d hd
    exact settled_of_images hr hn

/-- **What upper-casing makes of a character does not change again.** -/
theorem upperChar_of_mem {c d : Char} (h : d ∈ upperChar c) : upperChar d = [d] := by
  rcases upperChar_cases c with hsame | ⟨_, hsettled⟩
  · rw [hsame, List.mem_singleton] at h
    rw [h, hsame]
  · exact (hsettled d h).upperChar

/-- What upper-casing makes of a character that is not blank is not blank. -/
theorem isBlank_of_mem_upperChar {c d : Char} (h : d ∈ upperChar c) (hc : isBlank c = false) :
    isBlank d = false := by
  rcases upperChar_cases c with hsame | ⟨_, hsettled⟩
  · rw [hsame, List.mem_singleton] at h
    rw [h, hc]
  · exact (hsettled d h).isBlank

theorem upperChar_ne_nil (c : Char) : upperChar c ≠ [] := by
  rcases upperChar_cases c with hsame | ⟨hne, _⟩
  · rw [hsame]
    exact List.cons_ne_nil _ _
  · exact hne

theorem images_ne_colon : ∀ r ∈ images, r.contains ':'.toNat = false := by decide +kernel

/-- Upper-casing makes a colon of a colon only. -/
theorem colon_of_mem_upperChar {c : Char} (h : ':' ∈ upperChar c) : c = ':' := by
  rcases upperChar_images c with hsame | ⟨-, himages⟩
  · rw [hsame] at h
    exact (List.mem_singleton.mp h).symm
  · obtain ⟨r, hr, n, hn, hcolon⟩ := himages _ h
    have hnumber : n = ':'.toNat := by
      rcases toNat_ofNat n with hsame | hzero
      · rw [hcolon, hsame]
      · rw [← hcolon] at hzero
        exact absurd hzero (by decide)
    rw [hnumber, images_ne_colon r hr] at hn
    exact absurd hn (by decide)

/-! ## Texts -/

/-- Nothing but the text without characters has none in upper case. -/
theorem upper_eq_nil_iff {cs : List Char} : upper cs = [] ↔ cs = [] := by
  rw [upper, List.flatMap_eq_nil_iff]
  constructor
  · intro h
    cases cs with
    | nil => rfl
    | cons c cs => exact absurd (h c List.mem_cons_self) (upperChar_ne_nil c)
  · rintro rfl c hc
    exact absurd hc List.not_mem_nil

/-- Upper-casing brings no colon into a text. -/
theorem colon_of_mem_upper {cs : List Char} (h : ':' ∈ upper cs) : ':' ∈ cs := by
  obtain ⟨c, hc, hcolon⟩ := List.mem_flatMap.mp h
  rw [← colon_of_mem_upperChar hcolon]
  exact hc

/-- Trimming brings nothing into a text. -/
theorem mem_of_mem_trim {c : Char} {cs : List Char} (h : c ∈ trim cs) : c ∈ cs := by
  have hend : c ∈ trimStart cs := (List.rdropWhile_prefix isBlank (trimStart cs)).subset h
  exact (List.dropWhile_sublist isBlank).subset hend

/-- **A text in upper case stays as it is.** -/
theorem upper_upper (cs : List Char) : upper (upper cs) = upper cs := by
  have hfixed : ∀ ds, (∀ d ∈ ds, upperChar d = [d]) → upper ds = ds := by
    intro ds hds
    induction ds with
    | nil => rfl
    | cons d ds ih =>
      rw [upper, List.flatMap_cons, hds d List.mem_cons_self]
      exact congrArg (d :: ·) (ih fun d' hd' => hds d' (List.mem_cons_of_mem _ hd'))
  refine hfixed _ fun d hd => ?_
  obtain ⟨c, _, hc⟩ := List.mem_flatMap.mp hd
  exact upperChar_of_mem hc

/-- A text has no blanks at its ends. -/
def Trimmed (cs : List Char) : Prop :=
  (∀ c ∈ cs.head?, isBlank c = false) ∧ ∀ c ∈ cs.getLast?, isBlank c = false

theorem trimmed_trim (cs : List Char) : Trimmed (trim cs) := by
  constructor
  · intro c hc
    -- what the end has lost does not matter to the start
    obtain ⟨lost, hlost⟩ := List.rdropWhile_prefix isBlank (trimStart cs)
    have hstart : (trimStart cs).head? = some c := by
      have hne : trim cs ≠ [] := List.ne_nil_of_mem (List.mem_of_mem_head? hc)
      rw [← hlost]
      exact (List.head?_append_of_ne_nil (trim cs) hne).trans hc
    have hnot := List.head?_dropWhile_not isBlank cs
    rw [show cs.dropWhile isBlank = trimStart cs from rfl, hstart] at hnot
    exact hnot
  · intro c hc
    have hne : trim cs ≠ [] := List.ne_nil_of_mem (List.mem_of_mem_getLast? hc)
    have hlast := List.rdropWhile_last_not isBlank (trimStart cs) hne
    rw [List.getLast?_eq_some_getLast hne] at hc
    exact Option.some.inj hc ▸ Bool.eq_false_iff.mpr hlast

theorem Trimmed.trim {cs : List Char} (h : Trimmed cs) : trim cs = cs := by
  have hstart : trimStart cs = cs := by
    cases cs with
    | nil => rfl
    | cons c cs => exact trimStart_cons (h.1 c rfl) cs
  rw [Text.trim, hstart]
  refine List.rdropWhile_eq_self_iff.mpr fun hne => ?_
  rw [h.2 _ (List.getLast?_eq_some_getLast hne)]
  decide

/-- Blanks before a text do not count. -/
theorem trim_blank_append {before : List Char} (h : isBlankText before = true) (cs : List Char) :
    trim (before ++ cs) = trim cs := by
  have hstart : trimStart (before ++ cs) = trimStart cs :=
    List.dropWhile_append_of_pos (List.all_eq_true.mp h)
  rw [trim, hstart, trim]

/-- Blanks after a text do not count. -/
theorem trim_append_blank (cs : List Char) {after : List Char} (h : isBlankText after = true) :
    trim (cs ++ after) = trim cs := by
  have hblank : ∀ c ∈ after, isBlank c = true := List.all_eq_true.mp h
  have hend : ∀ ds, trimEnd (ds ++ after) = trimEnd ds := by
    intro ds
    unfold trimEnd
    rw [List.reverse_append, List.dropWhile_append_of_pos]
    intro c hc
    exact hblank c (List.mem_reverse.mp hc)
  have hstart : trimStart (cs ++ after) =
      if (trimStart cs).isEmpty then trimStart after else trimStart cs ++ after :=
    List.dropWhile_append
  have hnothing : trimStart after = [] := List.dropWhile_eq_nil_iff.mpr hblank
  rw [trim, hstart]
  -- if the start leaves nothing of the text, it takes the blanks after it as well
  split
  · rename_i hempty
    rw [hnothing, trim, List.isEmpty_iff.mp hempty]
  · rw [hend, trim]

/-- A trimmed text is what trimming leaves of it with blanks around it. -/
theorem Trimmed.trim_between {before cs after : List Char} (h : Trimmed cs)
    (hbefore : isBlankText before = true) (hafter : isBlankText after = true) :
    Text.trim (before ++ cs ++ after) = cs := by
  rw [trim_append_blank _ hafter, trim_blank_append hbefore, h.trim]

/-- Trimming leaves nothing of blanks. -/
theorem trim_of_isBlankText {cs : List Char} (h : isBlankText cs = true) : trim cs = [] :=
  trim_append_blank [] h

/-- A text without blanks at its ends is trimmed. -/
theorem trimmed_of_trim {cs : List Char} (h : trim cs = cs) : Trimmed cs := by
  rw [← h]
  exact trimmed_trim cs

/-- A text that begins and ends with trimmed texts is trimmed. -/
theorem Trimmed.append {first last : List Char} (hfirst : Trimmed first) (hlast : Trimmed last)
    (hfirst_ne : first ≠ []) (hlast_ne : last ≠ []) (middle : List Char) :
    Trimmed (first ++ (middle ++ last)) := by
  constructor
  · rw [List.head?_append_of_ne_nil first hfirst_ne]
    exact hfirst.1
  · have hmiddle_ne : middle ++ last ≠ [] := List.append_ne_nil_of_right_ne_nil middle hlast_ne
    rw [List.getLast?_append_of_ne_nil first hmiddle_ne,
      List.getLast?_append_of_ne_nil middle hlast_ne]
    exact hlast.2

/-- Upper-casing brings no blanks to the ends of a text. -/
theorem Trimmed.upper {cs : List Char} (h : Trimmed cs) : Trimmed (upper cs) := by
  constructor
  · intro d hd
    cases cs with
    | nil => exact absurd hd nofun
    | cons c cs =>
      rw [Text.upper, List.flatMap_cons, List.head?_append_of_ne_nil _ (upperChar_ne_nil c)] at hd
      exact isBlank_of_mem_upperChar (List.mem_of_mem_head? hd) (h.1 c rfl)
  · intro d hd
    rcases List.eq_nil_or_concat cs with rfl | ⟨cs, c, rfl⟩
    · exact absurd hd nofun
    · rw [List.concat_eq_append] at h hd
      rw [Text.upper, List.flatMap_append, List.flatMap_singleton,
        List.getLast?_append_of_ne_nil _ (upperChar_ne_nil c)] at hd
      exact isBlank_of_mem_upperChar (List.mem_of_mem_getLast? hd) (h.2 c List.getLast?_concat)

/-- **A text that is trimmed and in upper case stays as it is.** -/
theorem upper_trim_upper_trim (cs : List Char) :
    upper (trim (upper (trim cs))) = upper (trim cs) := by
  rw [(trimmed_trim cs).upper.trim, upper_upper]

end CandleFeed.Text

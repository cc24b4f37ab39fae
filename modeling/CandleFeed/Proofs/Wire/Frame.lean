import Mathlib.Data.List.Infix
import Mathlib.Data.List.TakeWhile
import CandleFeed.Proofs.Wire.Length

/-!
# Reading frames

**`Frame.decode`** reads exactly what **`Frame.encode`** writes.  The parts of the reader come
first, each with what it finds: the closing marker of a length (`splitAtMarker_eq_some`,
`splitAtMarker_digits`), and a number of bytes that ends between two characters
(`cutBytes_eq_parts_iff`).

* `next_encode_append`, `next_eq_frame`: a text starts with a frame exactly when it is the frame of
  a payload within the limit, followed by nothing or by what opens another frame.
* `next_error_append`: a fault at the start of a text stays one when more text follows.
* `drain_eq_ok_iff`: what `Frame.drain` takes apart is the frames of its payloads and what is left
  over, so one-shot reading and writing are inverse to each other.
-/

namespace CandleFeed.Frame

/-! ## Bytes -/

/-- The bytes of a text are those of its first character and those of the rest. -/
theorem byteCount_cons (c : Char) (cs : List Char) :
    byteCount (c :: cs) = c.utf8Size + byteCount cs := by
  have hshift : ∀ (cs : List Char) (n : Nat),
      cs.foldl (fun n c => n + c.utf8Size) n = n + byteCount cs := by
    intro cs
    induction cs with
    | nil => exact fun n => rfl
    | cons c cs ih =>
      intro n
      unfold byteCount
      rw [List.foldl_cons, List.foldl_cons, ih, ih (0 + c.utf8Size)]
      omega
  unfold byteCount
  rw [List.foldl_cons, hshift, Nat.zero_add]
  rfl

/-- A cut that leaves parts leaves the text in two, the first with as many bytes as are asked
for. -/
theorem cutBytes_eq_parts_iff {passed cs before after : List Char} {n : Nat} :
    cutBytes passed n cs = .parts before after ↔
      ∃ taken, before = passed.reverse ++ taken ∧ cs = taken ++ after ∧ byteCount taken = n := by
  induction cs generalizing passed n with
  | nil =>
    unfold cutBytes
    constructor
    · intro h
      split at h
      · rename_i hn
        simp only [Cut.parts.injEq] at h
        obtain ⟨rfl, rfl⟩ := h
        exact ⟨[], (List.append_nil _).symm, rfl, (eq_of_beq hn).symm⟩
      · exact absurd h (by simp)
    · rintro ⟨taken, rfl, hcs, rfl⟩
      obtain ⟨rfl, rfl⟩ := List.append_eq_nil_iff.mp hcs.symm
      rw [List.append_nil]
      rfl
  | cons c rest ih =>
    have hsize := c.utf8Size_pos
    unfold cutBytes
    constructor
    · intro h
      split at h
      · rename_i hn
        simp only [Cut.parts.injEq] at h
        obtain ⟨rfl, rfl⟩ := h
        exact ⟨[], (List.append_nil _).symm, rfl, (eq_of_beq hn).symm⟩
      · split at h
        · rename_i hle
          obtain ⟨taken, rfl, rfl, htaken⟩ := ih.mp h
          refine ⟨c :: taken, by simp, rfl, ?_⟩
          rw [byteCount_cons, htaken]
          omega
        · exact absurd h (by simp)
    · rintro ⟨taken, rfl, hcs, rfl⟩
      cases taken with
      | nil =>
        rw [List.nil_append] at hcs
        rw [← hcs, List.append_nil]
        rfl
      | cons d taken =>
        obtain ⟨rfl, rfl⟩ := List.cons.inj hcs
        rw [byteCount_cons]
        have hne : (c.utf8Size + byteCount taken == 0) = false := beq_false_of_ne (by omega)
        rw [hne, if_neg (by simp), if_pos (by omega), Nat.add_sub_cancel_left]
        exact ih.mpr ⟨taken, by simp, rfl, rfl⟩

/-- A cut inside a character stays there when more text follows. -/
theorem cutBytes_inside_append {passed cs : List Char} {n : Nat}
    (h : cutBytes passed n cs = .inside) (more : List Char) :
    cutBytes passed n (cs ++ more) = .inside := by
  induction cs generalizing passed n with
  | nil =>
    unfold cutBytes at h
    split at h <;> exact absurd h (by simp)
  | cons c rest ih =>
    rw [List.cons_append]
    unfold cutBytes at h ⊢
    split at h
    · exact absurd h (by simp)
    · rename_i hn
      rw [if_neg hn]
      split at h
      · rename_i hle
        rw [if_pos hle]
        exact ih h
      · rename_i hgt
        rw [if_neg hgt]

/-! ## The closing marker of a length -/

/-- A character that no marker begins at is passed by. -/
theorem splitAtMarker_cons {c : Char} {rest : List Char} (h : ¬ marker <+: c :: rest)
    (passed : List Char) : splitAtMarker passed (c :: rest) = splitAtMarker (c :: passed) rest := by
  refine splitAtMarker.eq_2 passed c rest ?_
  rintro rest' rfl rfl
  exact h ⟨rest', rfl⟩

/-- A text that is split has a marker between the two parts. -/
theorem splitAtMarker_eq_some {passed cs before after : List Char}
    (h : splitAtMarker passed cs = some (before, after)) :
    ∃ mid, before = passed.reverse ++ mid ∧ cs = mid ++ (marker ++ after) := by
  fun_induction splitAtMarker passed cs with
  | case1 passed rest =>
    obtain ⟨rfl, rfl⟩ := Prod.mk.inj (Option.some.inj h)
    exact ⟨[], (List.append_nil _).symm, rfl⟩
  | case2 passed c rest _ ih =>
    obtain ⟨mid, rfl, rfl⟩ := ih h
    exact ⟨c :: mid, by simp, rfl⟩
  | case3 => exact absurd h (by simp)

/-- Where a text is split does not change when more text follows. -/
theorem splitAtMarker_append {passed cs before after : List Char}
    (h : splitAtMarker passed cs = some (before, after)) (more : List Char) :
    splitAtMarker passed (cs ++ more) = some (before, after ++ more) := by
  fun_induction splitAtMarker passed cs with
  | case1 passed rest =>
    obtain ⟨rfl, rfl⟩ := Prod.mk.inj (Option.some.inj h)
    rfl
  | case2 passed c rest hnot ih =>
    -- a marker at this character would lie in the text itself, which is long enough
    have hnone : ¬ marker <+: c :: (rest ++ more) := by
      intro hmarker
      obtain ⟨mid, -, hrest⟩ := splitAtMarker_eq_some h
      have hlength : marker.length ≤ (c :: rest).length := by
        rw [hrest]
        simp only [List.length_cons, List.length_append]
        omega
      obtain ⟨tail, htail⟩ := List.prefix_of_prefix_length_le hmarker
        (List.prefix_append (c :: rest) more) hlength
      obtain ⟨rfl, rfl⟩ := List.cons.inj htail
      exact hnot tail rfl rfl
    rw [List.cons_append, splitAtMarker_cons hnone]
    exact ih h
  | case3 => exact absurd h (by simp)

/-- Digits before a marker are what the text is split after. -/
theorem splitAtMarker_digits {ds : List Char} (hds : ∀ d ∈ ds, d.isDigit = true)
    (passed body : List Char) :
    splitAtMarker passed (ds ++ (marker ++ body)) = some (passed.reverse ++ ds, body) := by
  induction ds generalizing passed with
  | nil =>
    rw [List.append_nil]
    rfl
  | cons d ds ih =>
    have hd : ¬ marker <+: d :: (ds ++ (marker ++ body)) := by
      rintro ⟨tail, htail⟩
      have hd' := hds d List.mem_cons_self
      obtain ⟨rfl, -⟩ := List.cons.inj htail
      exact absurd hd' (by decide)
    rw [List.cons_append, splitAtMarker_cons hd,
      ih fun d' hd' => hds d' (List.mem_cons_of_mem _ hd')]
    simp

/-! ## A length that has not all arrived -/

/-- A text may be the start of a length exactly when it is at most eight digits and at most the
first two characters of a marker. -/
theorem isPartialLength_iff {cs : List Char} :
    isPartialLength cs = true ↔
      ∃ ds tail, cs = ds ++ tail ∧ (∀ d ∈ ds, d.isDigit = true) ∧ ds.length ≤ maxLengthDigits ∧
        tail <+: ['~', 'm'] := by
  have htails : ∀ tail : List Char,
      tail <+: ['~', 'm'] ↔ [[], ['~'], ['~', 'm']].contains tail = true := by
    intro tail
    rw [← List.mem_inits, List.contains_iff_mem]
    rfl
  unfold isPartialLength
  rw [Bool.and_eq_true, decide_eq_true_eq, ← htails]
  constructor
  · rintro ⟨hlength, htail⟩
    refine ⟨cs.takeWhile Char.isDigit, _, ?_, ?_, hlength, htail⟩
    · exact List.prefix_append_drop (List.takeWhile_prefix Char.isDigit)
    · exact fun d hd => List.mem_takeWhile_imp hd
  · rintro ⟨ds, tail, rfl, hds, hlength, htail⟩
    -- what follows the digits does not begin with another one
    have htake : tail.takeWhile Char.isDigit = [] := by
      have hall : ∀ t ∈ ['~', 'm'].inits, t.takeWhile Char.isDigit = [] := by decide
      exact hall tail ((List.mem_inits _ _).mpr htail)
    rw [List.takeWhile_append_of_pos hds, htake, List.append_nil, List.drop_left]
    exact ⟨hlength, htail⟩

/-- What starts a text that may be the start of a length may be one itself. -/
theorem isPartialLength_of_append {cs more : List Char} (h : isPartialLength (cs ++ more) = true) :
    isPartialLength cs = true := by
  obtain ⟨ds, tail, hcs, hds, hlength, htail⟩ := isPartialLength_iff.mp h
  rw [isPartialLength_iff]
  rcases List.append_eq_append_iff.mp hcs with ⟨as, rfl, -⟩ | ⟨bs, rfl, rfl⟩
  · refine ⟨cs, [], (List.append_nil cs).symm, ?_, ?_, List.nil_prefix⟩
    · exact fun d hd => hds d (List.mem_append_left as hd)
    · rw [List.length_append] at hlength
      omega
  · exact ⟨ds, bs, rfl, hds, hlength, (List.prefix_append bs more).trans htail⟩

/-- A text that holds no marker, and is continued to a length and one, may be the start of a
length. -/
theorem isPartialLength_of_readLength {cs more ds body : List Char} {n : Nat}
    (hnone : splitAtMarker [] cs = none) (hsome : splitAtMarker [] (cs ++ more) = some (ds, body))
    (hread : readLength ds = .ok n) : isPartialLength cs = true := by
  obtain ⟨rfl, hmax⟩ := readLength_eq_ok_iff.mp hread
  obtain ⟨mid, hmid, htext⟩ := splitAtMarker_eq_some hsome
  rw [List.reverse_nil, List.nil_append] at hmid
  subst hmid
  have hpartial : isPartialLength (lengthDigits n ++ ['~', 'm']) = true :=
    isPartialLength_iff.mpr ⟨lengthDigits n, ['~', 'm'], rfl,
      fun d hd => isDigit_of_mem_lengthDigits hd, length_lengthDigits_le hmax, List.prefix_rfl⟩
  -- the text ends before the last character of the marker that closes the length
  have hstarts : cs <+: lengthDigits n ++ ['~', 'm'] := by
    rcases List.append_eq_append_iff.mp htext with ⟨as, has, -⟩ | ⟨bs, rfl, hbs⟩
    · exact has ▸ (List.prefix_append cs as).trans (List.prefix_append _ _)
    · rw [List.prefix_append_right_inj]
      have hclosed : ¬ marker <+: bs := by
        rintro ⟨tail, rfl⟩
        rw [splitAtMarker_digits fun d hd => isDigit_of_mem_lengthDigits hd] at hnone
        exact absurd hnone (by simp)
      have hopen : bs <+: ['~', 'm'] ++ ['~'] :=
        (List.prefix_or_prefix_of_prefix ⟨more, hbs.symm⟩ ⟨body, rfl⟩).resolve_right hclosed
      rcases List.prefix_concat_iff.mp hopen with rfl | h
      · exact absurd List.prefix_rfl hclosed
      · exact h
  obtain ⟨rest, hrest⟩ := hstarts
  exact isPartialLength_of_append (hrest ▸ hpartial)

/-! ## The start of a text -/

/-- A text goes on after a marker, is the start of one, or neither. -/
theorem next_cases (text : List Char) :
    (∃ rest, text = marker ++ rest ∧ next text = nextAfterMarker rest) ∨
      (text <+: marker ∧ next text = .ok .incomplete) ∨
      (¬ text <+: marker ∧ ¬ marker <+: text ∧
        next text = .error (.missingMarker (excerpt text))) := by
  unfold next
  split
  · rename_i rest
    exact Or.inl ⟨rest, rfl, rfl⟩
  · exact Or.inr (Or.inl ⟨by decide, rfl⟩)
  · exact Or.inr (Or.inl ⟨by decide, rfl⟩)
  · exact Or.inr (Or.inl ⟨by decide, rfl⟩)
  · rename_i hmarker hnil hone htwo
    refine Or.inr (Or.inr ⟨fun h => ?_, ?_, rfl⟩)
    · have hcases : ∀ t ∈ marker.inits, t = [] ∨ t = ['~'] ∨ t = ['~', 'm'] ∨ t = marker := by
        decide
      rcases hcases text ((List.mem_inits _ _).mpr h) with rfl | rfl | rfl | rfl
      · exact hnil rfl
      · exact hone rfl
      · exact htwo rfl
      · exact hmarker [] rfl
    · rintro ⟨rest, rfl⟩
      exact hmarker rest rfl

/-- The written frame of a payload, as its parts stand in a text. -/
theorem encode_append (payload rest : List Char) :
    encode payload ++ rest =
      marker ++ (lengthDigits (byteCount payload) ++ (marker ++ (payload ++ rest))) := by
  unfold encode
  simp only [List.append_assoc]

/-- **A frame tells its payload**, whatever its length. -/
theorem encode_injective {payload payload' : List Char} (h : encode payload = encode payload') :
    payload = payload' := by
  have hsplit (p : List Char) :
      splitAtMarker [] (lengthDigits (byteCount p) ++ (marker ++ p)) =
        some (lengthDigits (byteCount p), p) :=
    splitAtMarker_digits (fun d hd => isDigit_of_mem_lengthDigits (n := byteCount p) hd) [] p
  have htail : lengthDigits (byteCount payload) ++ (marker ++ payload) =
      lengthDigits (byteCount payload') ++ (marker ++ payload') := by
    unfold encode at h
    rw [List.append_assoc, List.append_assoc, List.append_assoc, List.append_assoc] at h
    exact List.append_cancel_left h
  have hboth := congrArg (splitAtMarker []) htail
  rw [hsplit, hsplit] at hboth
  exact (Prod.mk.inj (Option.some.inj hboth)).2

/-- **A written frame is found at the start of a text** when nothing follows it or what opens
another frame, and is a fault otherwise. -/
theorem next_encode_append {payload : List Char} (h : byteCount payload ≤ maxBytes)
    (rest : List Char) :
    next (encode payload ++ rest) =
      if rest.head?.all (· == '~') then .ok (.frame payload rest)
      else .error (.lengthMismatch (byteCount payload)) := by
  rw [encode_append]
  change nextAfterMarker (lengthDigits (byteCount payload) ++ (marker ++ (payload ++ rest))) = _
  have hsplit := splitAtMarker_digits
    (fun d hd => isDigit_of_mem_lengthDigits (n := byteCount payload) hd) [] (payload ++ rest)
  have hread : readLength (lengthDigits (byteCount payload)) = .ok (byteCount payload) :=
    readLength_eq_ok_iff.mpr ⟨rfl, h⟩
  have hcut : cutBytes [] (byteCount payload) (payload ++ rest) = .parts payload rest :=
    cutBytes_eq_parts_iff.mpr ⟨payload, rfl, rfl, rfl⟩
  unfold nextAfterMarker
  simp only [hsplit, List.reverse_nil, List.nil_append, hread, hcut]

/-- **A frame that is found is a written one**, of a payload within the limit. -/
theorem next_eq_frame {text payload rest : List Char} (h : next text = .ok (.frame payload rest)) :
    text = encode payload ++ rest ∧ byteCount payload ≤ maxBytes ∧
      rest.head?.all (· == '~') = true := by
  rcases next_cases text with ⟨after, rfl, hnext⟩ | ⟨-, hnext⟩ | ⟨-, -, hnext⟩
  · rw [hnext] at h
    unfold nextAfterMarker at h
    split at h
    · split at h <;> exact absurd h (by simp)
    · rename_i digits body hsplit
      split at h
      · exact absurd h (by simp)
      · rename_i declared hread
        split at h
        · exact absurd h (by simp)
        · exact absurd h (by simp)
        · rename_i before after' hcut
          split at h
          · rename_i hopens
            simp only [Except.ok.injEq, Start.frame.injEq] at h
            obtain ⟨rfl, rfl⟩ := h
            obtain ⟨mid, hmid, rfl⟩ := splitAtMarker_eq_some hsplit
            obtain ⟨taken, htaken, rfl, rfl⟩ := cutBytes_eq_parts_iff.mp hcut
            obtain ⟨rfl, hmax⟩ := readLength_eq_ok_iff.mp hread
            rw [List.reverse_nil, List.nil_append] at hmid htaken
            subst hmid htaken
            exact ⟨(encode_append _ _).symm, hmax, hopens⟩
          · exact absurd h (by simp)
  · rw [hnext] at h
    exact absurd h (by simp)
  · rw [hnext] at h
    exact absurd h (by simp)

/-- A fault after a marker stays one when more text follows. -/
theorem nextAfterMarker_error_append {text : List Char} {fault : FrameFault}
    (h : nextAfterMarker text = .error fault) (more : List Char) :
    ∃ fault', nextAfterMarker (text ++ more) = .error fault' := by
  unfold nextAfterMarker at h
  split at h
  · rename_i hnone
    split at h
    · exact absurd h (by simp)
    · rename_i hpartial
      unfold nextAfterMarker
      split
      · rw [if_neg fun hmore => hpartial (isPartialLength_of_append hmore)]
        exact ⟨_, rfl⟩
      · rename_i hsome
        split
        · exact ⟨_, rfl⟩
        · rename_i hread
          exact absurd (isPartialLength_of_readLength hnone hsome hread) hpartial
  · rename_i digits body hsome
    unfold nextAfterMarker
    simp only [splitAtMarker_append hsome more]
    split at h
    · exact ⟨_, rfl⟩
    · split at h
      · exact absurd h (by simp)
      · rename_i hinside
        simp only [cutBytes_inside_append hinside more]
        exact ⟨_, rfl⟩
      · rename_i payload rest hcut
        split at h
        · exact absurd h (by simp)
        · rename_i hopens
          obtain ⟨taken, hpayload, hbody, htaken⟩ := cutBytes_eq_parts_iff.mp hcut
          have hcut' : cutBytes [] _ (body ++ more) = .parts payload (rest ++ more) :=
            cutBytes_eq_parts_iff.mpr
              ⟨taken, hpayload, by rw [hbody, List.append_assoc], htaken⟩
          have hopens' : ¬ (rest ++ more).head?.all (· == '~') = true := by
            cases rest with
            | nil => exact absurd rfl hopens
            | cons c rest => exact hopens
          simp only [hcut', if_neg hopens']
          exact ⟨_, rfl⟩

/-- **A fault at the start of a text stays one when more text follows.** -/
theorem next_error_append {text : List Char} {fault : FrameFault} (h : next text = .error fault)
    (more : List Char) : ∃ fault', next (text ++ more) = .error fault' := by
  rcases next_cases text with ⟨rest, rfl, hnext⟩ | ⟨-, hnext⟩ | ⟨hopen, hclosed, -⟩
  · rw [hnext] at h
    rw [List.append_assoc]
    exact nextAfterMarker_error_append h more
  · rw [hnext] at h
    exact absurd h (by simp)
  · rcases next_cases (text ++ more) with ⟨rest, hrest, -⟩ | ⟨hmore, -⟩ | ⟨-, -, hnext⟩
    · rcases List.prefix_or_prefix_of_prefix ⟨more, rfl⟩ ⟨rest, hrest.symm⟩ with h' | h'
      · exact absurd h' hopen
      · exact absurd h' hclosed
    · exact absurd ((List.prefix_append text more).trans hmore) hopen
    · exact ⟨_, hnext⟩

/-! ## Everything that a text completes -/

/-- What a text completes goes by what it starts with. -/
theorem drain_eq (text : List Char) :
    drain text =
      match next text with
      | .error fault => .error fault
      | .ok .incomplete => .ok ([], text)
      | .ok (.frame payload rest) => (drain rest).map fun parts => (payload :: parts.1, parts.2) := by
  rw [drain]
  split
  · rename_i h
    rw [h]
  · rename_i h
    rw [h]
  · rename_i payload rest h
    simp only [h]
    cases drain rest <;> rfl

/-- A fault at the start of a text is one of the text. -/
theorem drain_of_error {text : List Char} {fault : FrameFault} (h : next text = .error fault) :
    drain text = .error fault := by
  rw [drain_eq, h]

/-- A text that completes no frame is left over. -/
theorem drain_of_incomplete {text : List Char} (h : next text = .ok .incomplete) :
    drain text = .ok ([], text) := by
  rw [drain_eq, h]

/-- A text that starts with a frame completes it, and what the rest completes. -/
theorem drain_of_frame {text payload rest : List Char} (h : next text = .ok (.frame payload rest)) :
    drain text = (drain rest).map fun parts => (payload :: parts.1, parts.2) := by
  rw [drain_eq, h]

/-- A text without a fault is nothing or begins as a frame does. -/
theorem head_of_drain {text : List Char} {parts : List (List Char) × List Char}
    (h : drain text = .ok parts) : text.head?.all (· == '~') = true := by
  rcases next_cases text with ⟨rest, rfl, -⟩ | ⟨hopen, -⟩ | ⟨-, -, hnext⟩
  · rfl
  · have hall : ∀ t ∈ marker.inits, t.head?.all (· == '~') = true := by decide
    exact hall text ((List.mem_inits _ _).mpr hopen)
  · rw [drain_of_error hnext] at h
    exact absurd h (by simp)

/-- A text that starts with a written frame is taken apart into its payload and the parts of what
follows it. -/
theorem drain_encode_append_iff {payload : List Char} (hmax : byteCount payload ≤ maxBytes)
    {rest pending : List Char} {payloads : List (List Char)} :
    drain (encode payload ++ rest) = .ok (payloads, pending) ↔
      ∃ later, payloads = payload :: later ∧ drain rest = .ok (later, pending) := by
  have hnext := next_encode_append hmax rest
  by_cases hopens : rest.head?.all (· == '~') = true
  · rw [if_pos hopens] at hnext
    rw [drain_of_frame hnext]
    cases hrest : drain rest with
    | error fault => simp [Except.map]
    | ok parts =>
      simp only [Except.map, Except.ok.injEq, Prod.mk.injEq]
      constructor
      · rintro ⟨rfl, rfl⟩
        exact ⟨parts.1, rfl, rfl⟩
      · rintro ⟨later, rfl, rfl⟩
        exact ⟨rfl, rfl⟩
  · rw [if_neg hopens] at hnext
    rw [drain_of_error hnext]
    constructor
    · intro h
      exact absurd h (by simp)
    · rintro ⟨later, -, hrest⟩
      exact absurd (head_of_drain hrest) hopens

/-- A text that starts with written frames is taken apart into their payloads and the parts of what
follows them. -/
theorem drain_flatMap_encode_append_iff {frames : List (List Char)}
    (hmax : ∀ payload ∈ frames, byteCount payload ≤ maxBytes)
    {rest pending : List Char} {payloads : List (List Char)} :
    drain (frames.flatMap encode ++ rest) = .ok (payloads, pending) ↔
      ∃ later, payloads = frames ++ later ∧ drain rest = .ok (later, pending) := by
  induction frames generalizing payloads with
  | nil => simp
  | cons payload frames ih =>
    rw [List.forall_mem_cons] at hmax
    rw [List.flatMap_cons, List.append_assoc, drain_encode_append_iff hmax.1]
    simp only [ih hmax.2]
    constructor
    · rintro ⟨_, rfl, later, rfl, hrest⟩
      exact ⟨later, rfl, hrest⟩
    · rintro ⟨later, rfl, hrest⟩
      exact ⟨frames ++ later, rfl, later, rfl, hrest⟩

/-- **What a text is taken apart into**: the written frames of payloads within the limit, and after
them what more text could complete. -/
theorem drain_eq_ok_iff {text pending : List Char} {payloads : List (List Char)} :
    drain text = .ok (payloads, pending) ↔
      text = payloads.flatMap encode ++ pending ∧
        (∀ payload ∈ payloads, byteCount payload ≤ maxBytes) ∧ next pending = .ok .incomplete := by
  constructor
  · intro h
    induction hlength : text.length using Nat.strongRecOn generalizing text payloads with
    | ind length ih =>
      cases hnext : next text with
      | error fault =>
        rw [drain_of_error hnext] at h
        exact absurd h (by simp)
      | ok start =>
        cases start with
        | incomplete =>
          rw [drain_of_incomplete hnext] at h
          simp only [Except.ok.injEq, Prod.mk.injEq] at h
          obtain ⟨rfl, rfl⟩ := h
          exact ⟨rfl, fun _ hpayload => absurd hpayload List.not_mem_nil, hnext⟩
        | frame payload rest =>
          have hshorter := next_rest_length hnext
          obtain ⟨rfl, hmax, -⟩ := next_eq_frame hnext
          obtain ⟨later, rfl, hrest⟩ := (drain_encode_append_iff hmax).mp h
          obtain ⟨rfl, hmax', hpending⟩ := ih rest.length (hlength ▸ hshorter) hrest rfl
          refine ⟨by rw [List.flatMap_cons, List.append_assoc], ?_, hpending⟩
          exact List.forall_mem_cons.mpr ⟨hmax, hmax'⟩
  · rintro ⟨rfl, hmax, hpending⟩
    rw [drain_flatMap_encode_append_iff hmax]
    exact ⟨[], (List.append_nil _).symm, drain_of_incomplete hpending⟩

/-- A text that is decoded completes its payloads and leaves nothing over. -/
theorem decode_eq_ok_iff_drain {text : List Char} {payloads : List (List Char)} :
    decode text = .ok payloads ↔ drain text = .ok (payloads, []) := by
  unfold decode
  cases drain text with
  | error fault => simp
  | ok parts =>
    obtain ⟨payloads', pending⟩ := parts
    cases pending <;> simp

/-- **Reading is inverse to writing.**  A text is decoded to payloads exactly when it is their
written frames one after another and each is within the limit; a payload may hold anything, markers
too. -/
theorem decode_eq_ok_iff {text : List Char} {payloads : List (List Char)} :
    decode text = .ok payloads ↔
      text = payloads.flatMap encode ∧ ∀ payload ∈ payloads, byteCount payload ≤ maxBytes := by
  rw [decode_eq_ok_iff_drain, drain_eq_ok_iff, List.append_nil]
  exact and_congr_right fun _ => and_iff_left rfl

end CandleFeed.Frame

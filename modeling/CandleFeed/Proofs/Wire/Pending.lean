import CandleFeed.Proofs.Wire.Stream

/-!
# What is held back

What trails the last complete frame is held back until more text arrives.  However hostile the text
is, that is little: the start of a marker, a length of eight digits at most, or a payload that is
not all there and whose length is within the limit (`byteCount_lt_of_incomplete`).  No frame is ever
held back (`not_encode_prefix_of_incomplete`).

An **`Account`** keeps beside the chunks what they yielded, and is begun anew with every fault.
**`feedAll_accounted`** says of any chunks at all that the account balances, that what is pending is
bounded, and that nothing of what came before a fault matters after it.
-/

namespace CandleFeed.Frame

/-! ## Bytes -/

/-- The bytes of two texts after one another. -/
theorem byteCount_append (cs ds : List Char) :
    byteCount (cs ++ ds) = byteCount cs + byteCount ds := by
  induction cs with
  | nil =>
    rw [List.nil_append]
    exact (Nat.zero_add _).symm
  | cons c cs ih => rw [List.cons_append, byteCount_cons, byteCount_cons, ih, Nat.add_assoc]

/-- A digit has one byte. -/
theorem byteCount_of_isDigit {ds : List Char} (h : ∀ d ∈ ds, d.isDigit = true) :
    byteCount ds = ds.length := by
  induction ds with
  | nil => rfl
  | cons d ds ih =>
    rw [List.forall_mem_cons] at h
    have hd : d.utf8Size = 1 := by
      have hhigh : d.toNat ≤ 57 := (Char.isDigit_iff_toNat.mp h.1).2
      rw [Char.utf8Size_eq_one_iff]
      show d.toNat ≤ 127
      omega
    rw [byteCount_cons, hd, ih h.2, List.length_cons, Nat.add_comm]

/-- A text that is too short for a cut has fewer bytes than that. -/
theorem byteCount_lt_of_short {passed cs : List Char} {n : Nat}
    (h : cutBytes passed n cs = .short) : byteCount cs < n := by
  induction cs generalizing passed n with
  | nil =>
    unfold cutBytes at h
    split at h
    · exact absurd h (by simp)
    · rename_i hn
      exact Nat.pos_of_ne_zero fun hzero => hn (beq_iff_eq.mpr hzero)
  | cons c rest ih =>
    unfold cutBytes at h
    split at h
    · exact absurd h (by simp)
    · split at h
      · rename_i hsize
        have hrest := ih h
        rw [byteCount_cons]
        omega
      · exact absurd h (by simp)

/-! ## Text that is no frame yet -/

/-- What follows a marker and is no frame yet is the start of a length, or a length and a payload
that is not all there. -/
theorem incomplete_afterMarker {text : List Char} (h : nextAfterMarker text = .ok .incomplete) :
    isPartialLength text = true ∨
      ∃ n body, text = lengthDigits n ++ (marker ++ body) ∧ n ≤ maxBytes ∧ byteCount body < n := by
  unfold nextAfterMarker at h
  split at h
  · split at h
    · left
      assumption
    · exact absurd h (by simp)
  · rename_i digits body hsplit
    split at h
    · exact absurd h (by simp)
    · rename_i n hread
      split at h
      · rename_i hshort
        right
        obtain ⟨rfl, hmax⟩ := readLength_eq_ok_iff.mp hread
        obtain ⟨mid, hmid, rfl⟩ := splitAtMarker_eq_some hsplit
        rw [List.reverse_nil, List.nil_append] at hmid
        subst hmid
        exact ⟨n, body, rfl, hmax, byteCount_lt_of_short hshort⟩
      · exact absurd h (by simp)
      · split at h <;> exact absurd h (by simp)

/-- **A text that is no frame yet is short**: at most the limit of a payload and the fourteen bytes
of the longest head, less one. -/
theorem byteCount_lt_of_incomplete {text : List Char} (h : next text = .ok .incomplete) :
    byteCount text < maxBytes + 14 := by
  have hmarker : byteCount marker = 3 := by decide
  rcases next_cases text with ⟨rest, rfl, hnext⟩ | ⟨hopen, -⟩ | ⟨-, -, hnext⟩
  · rw [hnext] at h
    rw [byteCount_append, hmarker]
    rcases incomplete_afterMarker h with hpartial | ⟨n, body, rfl, hmax, hbody⟩
    · obtain ⟨ds, tail, rfl, hds, hlength, htail⟩ := isPartialLength_iff.mp hpartial
      have hall : ∀ t ∈ ['~', 'm'].inits, byteCount t ≤ 2 := by decide
      have htwo : byteCount tail ≤ 2 := hall tail ((List.mem_inits _ _).mpr htail)
      have height : ds.length ≤ 8 := hlength
      rw [byteCount_append, byteCount_of_isDigit hds]
      omega
    · have hdigits : byteCount (lengthDigits n) = (lengthDigits n).length :=
        byteCount_of_isDigit fun d hd => isDigit_of_mem_lengthDigits hd
      have height : (lengthDigits n).length ≤ 8 := length_lengthDigits_le hmax
      rw [byteCount_append, byteCount_append, hdigits, hmarker]
      omega
  · have hall : ∀ t ∈ marker.inits, byteCount t ≤ 3 := by decide
    have hthree : byteCount text ≤ 3 := hall text ((List.mem_inits _ _).mpr hopen)
    omega
  · rw [hnext] at h
    exact absurd h (by simp)

/-- A text that starts with the frame of a payload over the limit is at fault. -/
theorem next_encode_append_of_lt {payload : List Char} (h : maxBytes < byteCount payload)
    (rest : List Char) : ∃ fault, next (encode payload ++ rest) = .error fault := by
  rw [encode_append]
  show ∃ fault,
    nextAfterMarker (lengthDigits (byteCount payload) ++ (marker ++ (payload ++ rest))) =
      .error fault
  have hsplit := splitAtMarker_digits
    (fun d hd => isDigit_of_mem_lengthDigits (n := byteCount payload) hd) [] (payload ++ rest)
  cases hread : readLength (lengthDigits (byteCount payload)) with
  | error fault =>
    refine ⟨fault, ?_⟩
    unfold nextAfterMarker
    simp only [hsplit, List.reverse_nil, List.nil_append, hread]
  | ok n =>
    -- a length that is read is within the limit, and digits have one value
    obtain ⟨hdigits, hmax⟩ := readLength_eq_ok_iff.mp hread
    have hvalue := congrArg (fun ds => Nat.ofDigitChars 10 ds 0) hdigits
    simp only [lengthDigits, Nat.ofDigitChars_ten_toDigits] at hvalue
    omega

/-- **A text that is no frame yet does not start with one**, of whatever length. -/
theorem not_encode_prefix_of_incomplete {text : List Char} (h : next text = .ok .incomplete)
    (payload : List Char) : ¬ encode payload <+: text := by
  rintro ⟨rest, rfl⟩
  by_cases hmax : byteCount payload ≤ maxBytes
  · rw [next_encode_append hmax] at h
    split at h <;> exact absurd h (by simp)
  · obtain ⟨fault, hfault⟩ := next_encode_append_of_lt (Nat.lt_of_not_le hmax) rest
    rw [hfault] at h
    exact absurd h (by simp)

/-! ## Accounts -/

/-- What came in since the last fault, or since the start, and what it yielded. -/
structure Account where
  /-- The text. -/
  fed : List Char
  /-- The payloads. -/
  yielded : List (List Char)
deriving DecidableEq

namespace Account

/-- The account before any text. -/
def opened : Account := ⟨[], []⟩

/-- Notes a chunk with what the call yields for it. -/
def note (a : Account) (chunk : List Char) : Except FrameFault (List (List Char)) → Account
  | .ok payloads => ⟨a.fed ++ chunk, a.yielded ++ payloads⟩
  | .error _ => opened

/-- Notes chunks one after another, each with what its call yields. -/
def noteAll (a : Account) (calls : List (List Char × Except FrameFault (List (List Char)))) :
    Account := calls.foldl (fun a call => a.note call.1 call.2) a

/-- The account of chunks that are fed one after another. -/
def ofChunks (chunks : List (List Char)) : Account :=
  opened.noteAll (chunks.zip (feedAll [] chunks).1)

/-- The text is the frames of the payloads and what is pending, and this is no frame yet. -/
structure Balances (a : Account) (pending : List Char) : Prop where
  whole : a.fed = a.yielded.flatMap encode ++ pending
  incomplete : next pending = .ok .incomplete

/-- The account balances before any text. -/
theorem balances_opened : opened.Balances [] := ⟨rfl, rfl⟩

/-- **A chunk leaves an account that balances**, whatever is in it. -/
theorem Balances.feed {a : Account} {pending : List Char} (h : a.Balances pending)
    (chunk : List Char) :
    (a.note chunk (Frame.feed pending chunk).1).Balances (Frame.feed pending chunk).2 := by
  cases hdrain : drain (pending ++ chunk) with
  | error fault =>
    rw [feed_of_error hdrain]
    exact balances_opened
  | ok parts =>
    obtain ⟨payloads, pending'⟩ := parts
    obtain ⟨htext, -, hincomplete⟩ := drain_eq_ok_iff.mp hdrain
    rw [feed_of_ok hdrain]
    constructor
    · show a.fed ++ chunk = (a.yielded ++ payloads).flatMap encode ++ pending'
      rw [h.whole, List.append_assoc, htext, List.flatMap_append, List.append_assoc]
    · exact hincomplete

/-- Chunks leave an account that balances. -/
theorem Balances.feedAll {a : Account} {pending : List Char} (h : a.Balances pending)
    (chunks : List (List Char)) :
    (a.noteAll (chunks.zip (Frame.feedAll pending chunks).1)).Balances
      (Frame.feedAll pending chunks).2 := by
  induction chunks generalizing a pending with
  | nil => exact h
  | cons chunk chunks ih => exact ih (h.feed chunk)

end Account

/-- A fault leaves nothing pending. -/
theorem feed_pending_of_error {pending chunk : List Char} {fault : FrameFault}
    (h : (feed pending chunk).1 = .error fault) : (feed pending chunk).2 = [] := by
  cases hdrain : drain (pending ++ chunk) with
  | error fault' => rw [feed_of_error hdrain]
  | ok parts =>
    rw [feed_of_ok hdrain] at h
    exact absurd h (by simp)

/-- A fault in the last of some chunks leaves nothing pending. -/
theorem feedAll_pending_of_error {pending : List Char} {chunks : List (List Char)}
    {fault : FrameFault} (h : (feedAll pending chunks).1.getLast? = some (.error fault)) :
    (feedAll pending chunks).2 = [] := by
  induction chunks generalizing pending with
  | nil => exact absurd h (by simp [feedAll])
  | cons chunk chunks ih =>
    rw [feedAll_cons] at h
    cases chunks with
    | nil => exact feed_pending_of_error (Option.some.inj h)
    | cons chunk' chunks =>
      apply ih
      rw [feedAll_cons, List.getLast?_cons_cons] at h
      exact h

/-- There is one answer for each chunk. -/
theorem length_feedAll (pending : List Char) (chunks : List (List Char)) :
    (feedAll pending chunks).1.length = chunks.length := by
  induction chunks generalizing pending with
  | nil => rfl
  | cons chunk chunks ih =>
    rw [feedAll_cons, List.length_cons, List.length_cons, ih]

/-- **What is pending is bounded and accounted for.**  After any chunks there is one answer for
each; the text since the last fault is the frames of the payloads that it yielded, and what is
pending; that is less than the limit and fourteen bytes, and starts with no frame; and if the last
answer is a fault, the chunks that come later are answered as if there had been none before. -/
theorem feedAll_accounted (chunks : List (List Char)) :
    (feedAll [] chunks).1.length = chunks.length ∧
      (Account.ofChunks chunks).fed =
        (Account.ofChunks chunks).yielded.flatMap encode ++ (feedAll [] chunks).2 ∧
      byteCount (feedAll [] chunks).2 < maxBytes + 14 ∧
      (∀ payload, ¬ encode payload <+: (feedAll [] chunks).2) ∧
      ∀ fault, (feedAll [] chunks).1.getLast? = some (.error fault) →
        ∀ later, feedAll (feedAll [] chunks).2 later = feedAll [] later := by
  have hbalances : (Account.ofChunks chunks).Balances (feedAll [] chunks).2 :=
    Account.balances_opened.feedAll chunks
  refine ⟨length_feedAll [] chunks, hbalances.whole, ?bounded, ?bare, ?fresh⟩
  case bounded => exact byteCount_lt_of_incomplete hbalances.incomplete
  case bare => exact not_encode_prefix_of_incomplete hbalances.incomplete
  case fresh =>
    intro fault hfault later
    rw [feedAll_pending_of_error hfault]

/-- Two faults, a payload between them, and after them a frame with the start of another. -/
def twoFaults : List (List Char) :=
  [['x'], encode ['a'], ['~', 'm', 'x'], encode ['é'] ++ ['~', 'm'], ['~', '1', '2']]

/-- What is pending of them is that start. -/
theorem feedAll_accounted_twoFaults :
    (feedAll [] twoFaults).1 = [.error (.missingMarker ['x']), .ok [['a']],
        .error (.missingMarker ['~', 'm', 'x']), .ok [['é']], .ok []] ∧
      Account.ofChunks twoFaults = ⟨encode ['é'] ++ ['~', 'm', '~', '1', '2'], [['é']]⟩ ∧
      byteCount (feedAll [] twoFaults).2 < maxBytes + 14 ∧
      (feedAll [] (twoFaults.take 3)).1.getLast? = some (.error (.missingMarker ['~', 'm', 'x'])) ∧
      ∀ later, feedAll (feedAll [] (twoFaults.take 3)).2 later = feedAll [] later := by
  have hlast : (feedAll [] (twoFaults.take 3)).1.getLast? =
      some (.error (.missingMarker ['~', 'm', 'x'])) := by decide +kernel
  obtain ⟨-, -, hbounded, -, -⟩ := feedAll_accounted twoFaults
  obtain ⟨-, -, -, -, hfresh⟩ := feedAll_accounted (twoFaults.take 3)
  exact ⟨by decide +kernel, by decide +kernel, hbounded, hlast, hfresh _ hlast⟩

end CandleFeed.Frame

import CandleFeed.Text.Quoted

/-!
# Frames

A provider's connection carries payloads in frames `~m~<length>~m~<payload>`, where the length is
the payload's size in bytes of UTF-8, in decimal.  A chunk of received text may hold several
frames, and a frame may be spread over several chunks.

**`Frame.encode`** writes a frame.  **`Frame.next`** looks at the start of a text and finds a
frame, a start that more text could complete, or a fault.  **`Frame.feed`** adds a chunk to what an
earlier one left over and yields every payload that is now complete; **`Frame.decode`** reads a
text that must consist of complete frames.
-/

namespace CandleFeed

/-- What is wrong with framed text. -/
inductive FrameFault where
  /-- The text does not start as a frame does. -/
  | missingMarker (found : List Char)
  /-- What stands for the length is no length. -/
  | invalidLength (found : List Char)
  /-- The payload would end inside a character, or something other than a frame follows it. -/
  | lengthMismatch (declared : Nat)
  /-- The length is over the limit. -/
  | tooLarge (length : Nat)
  /-- The text ends inside a frame. -/
  | truncated (pending : Nat)
deriving DecidableEq, Repr

namespace FrameFault

/-- The message for a fault. -/
def message : FrameFault → String
  | missingMarker found => "expected frame marker, found " ++ Text.quoted (String.ofList found)
  | invalidLength found => "invalid length marker " ++ Text.quoted (String.ofList found)
  | lengthMismatch declared =>
    "declared length " ++ toString declared ++ " does not end on a frame boundary"
  | tooLarge length => "frame of " ++ toString length ++ " bytes exceeds limit"
  | truncated pending => "truncated frame: " ++ toString pending ++ " bytes pending"

end FrameFault

namespace Frame

/-- What stands before and after a length. -/
def marker : List Char := ['~', 'm', '~']

/-- The largest payload, in bytes. -/
def maxBytes : Nat := 16 * 1024 * 1024

/-- How many digits a length has at most. -/
def maxLengthDigits : Nat := 8

/-- The size of a text in bytes of UTF-8. -/
def byteCount (cs : List Char) : Nat := cs.foldl (fun n c => n + c.utf8Size) 0

/-- The decimal digits of a length. -/
def lengthDigits (n : Nat) : List Char := Nat.toDigits 10 n

/-- The frame of a payload. -/
def encode (payload : List Char) : List Char :=
  marker ++ lengthDigits (byteCount payload) ++ marker ++ payload

/-- The first sixteen characters, for a message. -/
def excerpt (cs : List Char) : List Char := cs.take 16

/-- The text before and after the first marker in it, given backwards what was passed by already. -/
def splitAtMarker (passed : List Char) : List Char → Option (List Char × List Char)
  | '~' :: 'm' :: '~' :: rest => some (passed.reverse, rest)
  | c :: rest => splitAtMarker (c :: passed) rest
  | [] => none

/-- The text may be a length whose closing marker has not all arrived: at most eight digits, and
after them at most the first two characters of a marker. -/
def isPartialLength (cs : List Char) : Bool :=
  let digits := cs.takeWhile Char.isDigit
  digits.length ≤ maxLengthDigits && [[], ['~'], ['~', 'm']].contains (cs.drop digits.length)

/-- The length that digits denote: one to eight of them, the first not a zero unless alone. -/
def readLength (ds : List Char) : Except FrameFault Nat :=
  if !ds.isEmpty && ds.length ≤ maxLengthDigits && ds.all Char.isDigit &&
      !(1 < ds.length && ds.head? == some '0') then
    let n := ds.foldl (fun n d => n * 10 + (d.toNat - 48)) 0
    if maxBytes < n then .error (.tooLarge n) else .ok n
  else .error (.invalidLength ds)

/-- A text cut after a number of bytes. -/
inductive Cut where
  /-- The parts before and after the cut. -/
  | parts (before after : List Char)
  /-- The text is shorter. -/
  | short
  /-- The cut falls inside a character. -/
  | inside

/-- Cuts a text after a number of bytes, given backwards what was passed by already. -/
def cutBytes (passed : List Char) (n : Nat) : List Char → Cut
  | [] => if n == 0 then .parts passed.reverse [] else .short
  | c :: rest =>
    if n == 0 then .parts passed.reverse (c :: rest)
    else if c.utf8Size ≤ n then cutBytes (c :: passed) (n - c.utf8Size) rest
    else .inside

/-- What the start of a text holds. -/
inductive Start where
  /-- A frame with this payload, and the text after it. -/
  | frame (payload rest : List Char)
  /-- Part of a frame, or nothing. -/
  | incomplete

/-- The frame that a text starts with, given the text after the opening marker. -/
def nextAfterMarker (text : List Char) : Except FrameFault Start :=
  match splitAtMarker [] text with
  | none => if isPartialLength text then .ok .incomplete else .error (.invalidLength (excerpt text))
  | some (digits, body) =>
    match readLength digits with
    | .error fault => .error fault
    | .ok declared =>
      match cutBytes [] declared body with
      | .short => .ok .incomplete
      | .inside => .error (.lengthMismatch declared)
      | .parts payload rest =>
        if rest.head?.all (· == '~') then .ok (.frame payload rest)
        else .error (.lengthMismatch declared)

/-- What a text starts with. -/
def next (text : List Char) : Except FrameFault Start :=
  match text with
  | '~' :: 'm' :: '~' :: rest => nextAfterMarker rest
  | [] => .ok .incomplete
  | ['~'] => .ok .incomplete
  | ['~', 'm'] => .ok .incomplete
  | _ => .error (.missingMarker (excerpt text))

theorem splitAtMarker_length {passed cs before after : List Char}
    (h : splitAtMarker passed cs = some (before, after)) : after.length < cs.length := by
  fun_induction splitAtMarker passed cs with
  | case1 passed rest =>
    simp only [Option.some.injEq, Prod.mk.injEq] at h
    simp only [← h.2, List.length_cons]
    omega
  | case2 passed c rest _ ih =>
    have := ih h
    simp only [List.length_cons]
    omega
  | case3 => simp at h

theorem cutBytes_length {passed : List Char} {n : Nat} {cs before after : List Char}
    (h : cutBytes passed n cs = .parts before after) : after.length ≤ cs.length := by
  induction cs generalizing passed n with
  | nil =>
    unfold cutBytes at h
    split at h <;> simp_all
  | cons c rest ih =>
    unfold cutBytes at h
    split at h
    · simp only [Cut.parts.injEq] at h
      simp [← h.2]
    · split at h
      · have := ih h
        simp only [List.length_cons]
        omega
      · simp at h

theorem next_rest_length {text payload rest : List Char}
    (h : next text = .ok (.frame payload rest)) : rest.length < text.length := by
  unfold next at h
  split at h
  · unfold nextAfterMarker at h
    split at h
    · split at h <;> simp at h
    · rename_i body hsplit
      split at h
      · simp at h
      · split at h
        · simp at h
        · simp at h
        · rename_i hcut
          split at h
          · simp at h
            have h1 := splitAtMarker_length hsplit
            have h2 := cutBytes_length hcut
            simp [← h.2]; omega
          · simp at h
  all_goals simp at h

/-- Every payload that a text completes, and what is left over. -/
def drain (text : List Char) : Except FrameFault (List (List Char) × List Char) :=
  match h : next text with
  | .error fault => .error fault
  | .ok .incomplete => .ok ([], text)
  | .ok (.frame payload rest) =>
    have := next_rest_length h
    match drain rest with
    | .error fault => .error fault
    | .ok (payloads, pending) => .ok (payload :: payloads, pending)
termination_by text.length

/-- Adds a chunk to what is pending: the payloads that are now complete, or a fault, and what is
pending then.  A fault discards everything. -/
def feed (pending chunk : List Char) : Except FrameFault (List (List Char)) × List Char :=
  match drain (pending ++ chunk) with
  | .error fault => (.error fault, [])
  | .ok (payloads, pending) => (.ok payloads, pending)

/-- The payloads of a text that consists of complete frames. -/
def decode (text : List Char) : Except FrameFault (List (List Char)) :=
  match drain text with
  | .error fault => .error fault
  | .ok (payloads, []) => .ok payloads
  | .ok (_, pending) => .error (.truncated (byteCount pending))

end Frame

end CandleFeed

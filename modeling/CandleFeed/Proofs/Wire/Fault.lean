import CandleFeed.Proofs.Wire.Stream

/-!
# Frames before a fault

A text of complete frames is followed by one that is at fault, and arrives in chunks.  The chunks
before the one with which the fault is found yield what they complete (`feedAll_first_fault`); the
call that finds it yields nothing but the fault.  So **`feedAll_faulty`**: a payload is yielded
exactly when its frame had arrived in full before that call, and the ones that arrived with the
fault are lost.  How many these are depends on where the text was cut (`feedAll_faulty_loses`).
-/

namespace CandleFeed.Frame

/-- **The first fault**: in chunks that are fed after a text without a fault, and which have one
together, a call finds a fault after calls that find none.  These yield what the text before that
call completes, and the calls after it start anew. -/
theorem feedAll_first_fault {text pending : List Char} {payloads : List (List Char)}
    {fault : FrameFault} {chunks : List (List Char)} (h : drain text = .ok (payloads, pending))
    (hfault : drain (text ++ chunks.flatten) = .error fault) :
    ∃ (before : List (List Char)) (chunk : List Char) (after : List (List Char))
      (lists : List (List (List Char))) (fault' : FrameFault) (pending' : List Char),
      chunks = before ++ chunk :: after ∧
      lists.length = before.length ∧
      (feedAll pending chunks).1 = lists.map .ok ++ .error fault' :: (feedAll [] after).1 ∧
      drain (text ++ before.flatten) = .ok (payloads ++ lists.flatten, pending') := by
  induction chunks generalizing text payloads pending with
  | nil =>
    rw [List.flatten_nil, List.append_nil, h] at hfault
    exact absurd hfault (by simp)
  | cons chunk chunks ih =>
    rw [List.flatten_cons, ← List.append_assoc] at hfault
    cases hchunk : drain (pending ++ chunk) with
    | error fault' =>
      refine ⟨[], chunk, chunks, [], fault', pending, rfl, rfl, ?_, ?_⟩
      · rw [feedAll_cons, feed_of_error hchunk]
        rfl
      · rw [List.flatten_nil, List.flatten_nil, List.append_nil, List.append_nil]
        exact h
    | ok parts =>
      obtain ⟨first, pending'⟩ := parts
      obtain ⟨before, last, after, lists, fault', pending'', rfl, hlength, hfed, hdrain⟩ :=
        ih (drain_append_ok h hchunk) hfault
      refine ⟨chunk :: before, last, after, first :: lists, fault', pending'', rfl, ?_, ?_, ?_⟩
      · rw [List.length_cons, List.length_cons, hlength]
      · rw [feedAll_cons, feed_of_ok hchunk]
        exact congrArg (Except.ok first :: ·) hfed
      · rw [List.flatten_cons, List.flatten_cons, ← List.append_assoc, ← List.append_assoc]
        exact hdrain

/-- Of the frames that a text and more text after it start with, the text completes those that are
no longer than it. -/
theorem prefix_of_drain_iff {text more later pending : List Char}
    {frames payloads : List (List Char)} (hmax : ∀ payload ∈ frames, byteCount payload ≤ maxBytes)
    (htext : text ++ more = frames.flatMap encode ++ later)
    (h : drain text = .ok (payloads, pending)) :
    frames <+: payloads ↔ (frames.flatMap encode).length ≤ text.length := by
  constructor
  · rintro ⟨others, rfl⟩
    obtain ⟨rfl, -, -⟩ := drain_eq_ok_iff.mp h
    rw [List.flatMap_append, List.append_assoc, List.length_append]
    exact Nat.le_add_right _ _
  · intro hlength
    have hframes : frames.flatMap encode <+: text ++ more := by
      rw [htext]
      exact List.prefix_append _ _
    obtain ⟨rest, rfl⟩ :=
      List.prefix_of_prefix_length_le hframes (List.prefix_append text more) hlength
    obtain ⟨others, rfl, -⟩ := (drain_flatMap_encode_append_iff hmax).mp h
    exact List.prefix_append _ _

/-- Texts of which one starts the other complete payloads of which one list starts the other, if
one of them consists of complete frames. -/
theorem prefix_or_prefix_of_drain {text more pending bad : List Char}
    {frames payloads : List (List Char)} (hmax : ∀ payload ∈ frames, byteCount payload ≤ maxBytes)
    (htext : text ++ more = frames.flatMap encode ++ bad)
    (h : drain text = .ok (payloads, pending)) :
    payloads <+: frames ∨ frames <+: payloads := by
  obtain ⟨rfl, hmax', -⟩ := drain_eq_ok_iff.mp h
  have hframes : drain (frames.flatMap encode) = .ok (frames, []) := by
    rw [drain_eq_ok_iff, List.append_nil]
    exact ⟨rfl, hmax, rfl⟩
  have hsame : frames.flatMap encode ++ bad = payloads.flatMap encode ++ (pending ++ more) := by
    rw [← htext, List.append_assoc]
  rw [prefix_of_drain_iff hmax' hsame hframes, prefix_of_drain_iff hmax htext h, List.length_append]
  omega

/-- **Payloads before a fault**: when frames are followed by text at fault, however this is cut,
some call finds a fault.  The calls before it yield the payloads in order, and of these exactly
those whose frames had arrived in full before the chunk of that call; the call itself yields
none. -/
theorem feedAll_faulty {payloads : List (List Char)} {bad : List Char} {fault : FrameFault}
    {chunks : List (List Char)} (hmax : ∀ payload ∈ payloads, byteCount payload ≤ maxBytes)
    (hbad : (feed [] bad).1 = .error fault)
    (hchunks : chunks.flatten = payloads.flatMap encode ++ bad) :
    ∃ (before : List (List Char)) (chunk : List Char) (after : List (List Char))
      (lists : List (List (List Char))) (fault' : FrameFault), chunks = before ++ chunk :: after ∧
      lists.length = before.length ∧
      (feedAll [] chunks).1 = lists.map .ok ++ .error fault' :: (feedAll [] after).1 ∧
      (lists.flatten <+: payloads ∨ payloads <+: lists.flatten) ∧
      ∀ n, payloads.take n <+: lists.flatten ↔
        ((payloads.take n).flatMap encode).length ≤ before.flatten.length := by
  have hnil : drain [] = .ok ([], []) := drain_of_incomplete rfl
  have hdrain : ∃ fault', drain ([] ++ chunks.flatten) = .error fault' := by
    rw [List.nil_append, hchunks]
    cases hall : drain (payloads.flatMap encode ++ bad) with
    | error fault' => exact ⟨fault', rfl⟩
    | ok parts =>
      obtain ⟨later, -, hok⟩ := (drain_flatMap_encode_append_iff hmax).mp hall
      rw [feed_of_ok (by rw [List.nil_append]; exact hok)] at hbad
      exact absurd hbad (by simp)
  obtain ⟨fault', hfault⟩ := hdrain
  obtain ⟨before, chunk, after, lists, fault'', pending, hsplit, hlength, hfed, hbefore⟩ :=
    feedAll_first_fault hnil hfault
  have htext : before.flatten ++ (chunk ++ after.flatten) = payloads.flatMap encode ++ bad := by
    rw [← hchunks, hsplit, List.flatten_append, List.flatten_cons]
  refine ⟨before, chunk, after, lists, fault'', hsplit, hlength, hfed,
    prefix_or_prefix_of_drain hmax htext hbefore, fun n => ?_⟩
  have hfirst : ∀ payload ∈ payloads.take n, byteCount payload ≤ maxBytes :=
    fun payload hmem => hmax payload (List.mem_of_mem_take hmem)
  rw [← List.take_append_drop n payloads, List.flatMap_append, List.append_assoc] at htext
  exact prefix_of_drain_iff hfirst htext hbefore

/-- Of two payloads in three chunks the first is yielded, and the second is lost: the end of its
frame arrives together with the fault. -/
theorem feedAll_faulty_cutInSecond :
    let payloads := [['a'], ['b']]
    let chunks := [['~', 'm', '~', '1', '~', 'm'], ['~', 'a', '~', 'm'],
      ['~', '1', '~', 'm', '~', 'b', '~', 'x']]
    chunks.flatten = payloads.flatMap encode ++ ['~', 'x'] ∧
      (feedAll [] chunks).1 = [.ok [], .ok [['a']], .error (.missingMarker ['~', 'x'])] ∧
      ∃ (before : List (List Char)) (chunk : List Char) (after : List (List Char))
        (lists : List (List (List Char))) (fault' : FrameFault), chunks = before ++ chunk :: after ∧
        lists.length = before.length ∧
        (feedAll [] chunks).1 = lists.map .ok ++ .error fault' :: (feedAll [] after).1 ∧
        (lists.flatten <+: payloads ∨ payloads <+: lists.flatten) ∧
        ∀ n, payloads.take n <+: lists.flatten ↔
          ((payloads.take n).flatMap encode).length ≤ before.flatten.length := by
  intro payloads chunks
  have hmax : ∀ payload ∈ payloads, byteCount payload ≤ maxBytes := by decide
  have hbad : (feed [] ['~', 'x']).1 = .error (.missingMarker ['~', 'x']) := by decide +kernel
  have hchunks : chunks.flatten = payloads.flatMap encode ++ ['~', 'x'] := by decide +kernel
  exact ⟨hchunks, by decide +kernel, feedAll_faulty hmax hbad hchunks⟩

/-- The payload before a fault is yielded when the fault arrives in a chunk of its own, and not when
both arrive in one. -/
theorem feedAll_faulty_loses :
    (∀ payload ∈ [['a']], byteCount payload ≤ maxBytes) ∧
      (feed [] ['~', 'x']).1 = .error (.missingMarker ['~', 'x']) ∧
      (feedAll [] [encode ['a'], ['~', 'x']]).1 =
        [.ok [['a']], .error (.missingMarker ['~', 'x'])] ∧
      (feedAll [] [encode ['a'] ++ ['~', 'x']]).1 = [.error (.missingMarker ['~', 'x'])] := by
  decide +kernel

end CandleFeed.Frame

import CandleFeed.Proofs.Wire.Frame

/-!
# Frames in chunks

Received text arrives in chunks, cut anywhere.  **`Frame.feedAll`** feeds them one after another,
each with what the ones before it left over.

* `drain_append_ok`, `drain_append_error`: what a text completes, and whether there is a fault in
  it, is settled by the payloads of its first part and by what that part leaves over.
* `drain_error_append`: a fault stays one when more text follows.
* `feedAll_of_drain`: chunks that are fed after a text complete what the text with them does, so
  where a text is cut makes no difference.
-/

namespace CandleFeed.Frame

/-- Feeds chunks one after another: what each call yields, and what is pending after all. -/
def feedAll (pending : List Char) :
    List (List Char) → List (Except FrameFault (List (List Char))) × List Char
  | [] => ([], pending)
  | chunk :: chunks =>
    let first := feed pending chunk
    let later := feedAll first.2 chunks
    (first.1 :: later.1, later.2)

/-! ## Text that is continued -/

/-- What a text leaves over is taken apart, with more text after it, as it is after the frames that
the text completes. -/
theorem drain_append_ok {text pending more pending' : List Char} {payloads later : List (List Char)}
    (h : drain text = .ok (payloads, pending))
    (hmore : drain (pending ++ more) = .ok (later, pending')) :
    drain (text ++ more) = .ok (payloads ++ later, pending') := by
  obtain ⟨rfl, hmax, -⟩ := drain_eq_ok_iff.mp h
  rw [List.append_assoc, drain_flatMap_encode_append_iff hmax]
  exact ⟨later, rfl, hmore⟩

/-- A fault in what a text leaves over with more text after it is one in the text with it. -/
theorem drain_append_error {text pending more : List Char} {payloads : List (List Char)}
    {fault : FrameFault} (h : drain text = .ok (payloads, pending))
    (hmore : drain (pending ++ more) = .error fault) :
    ∃ fault', drain (text ++ more) = .error fault' := by
  obtain ⟨rfl, hmax, -⟩ := drain_eq_ok_iff.mp h
  rw [List.append_assoc]
  cases hall : drain (payloads.flatMap encode ++ (pending ++ more)) with
  | error fault' => exact ⟨fault', rfl⟩
  | ok parts =>
    obtain ⟨later, -, hok⟩ := (drain_flatMap_encode_append_iff hmax).mp hall
    exact absurd (hok.symm.trans hmore) (by simp)

/-- **A fault stays one** when more text follows. -/
theorem drain_error_append {text : List Char} {fault : FrameFault} (h : drain text = .error fault)
    (more : List Char) : ∃ fault', drain (text ++ more) = .error fault' := by
  induction hlength : text.length using Nat.strongRecOn generalizing text with
  | ind length ih =>
    cases hnext : next text with
    | error fault' =>
      obtain ⟨fault'', hfault⟩ := next_error_append hnext more
      exact ⟨fault'', drain_of_error hfault⟩
    | ok start =>
      cases start with
      | incomplete => exact absurd ((drain_of_incomplete hnext).symm.trans h) (by simp)
      | frame payload rest =>
        have hshorter := next_rest_length hnext
        obtain ⟨rfl, hmax, -⟩ := next_eq_frame hnext
        have hrest : drain rest = .error fault := by
          cases hrest : drain rest with
          | error fault' =>
            rw [drain_of_frame hnext, hrest] at h
            exact h
          | ok parts =>
            have := (drain_encode_append_iff hmax).mpr ⟨parts.1, rfl, hrest⟩
            exact absurd (this.symm.trans h) (by simp)
        obtain ⟨fault', hfault⟩ := ih rest.length (hlength ▸ hshorter) hrest rfl
        cases hall : drain (encode payload ++ rest ++ more) with
        | error fault'' => exact ⟨fault'', rfl⟩
        | ok parts =>
          rw [List.append_assoc] at hall
          obtain ⟨later, -, hok⟩ := (drain_encode_append_iff hmax).mp hall
          exact absurd (hok.symm.trans hfault) (by simp)

/-- What starts a text without a fault has none, and completes the first of its payloads. -/
theorem drain_of_append {text more pending : List Char} {payloads : List (List Char)}
    (h : drain (text ++ more) = .ok (payloads, pending)) :
    ∃ first later pending', payloads = first ++ later ∧ drain text = .ok (first, pending') := by
  cases htext : drain text with
  | error fault =>
    obtain ⟨fault', hfault⟩ := drain_error_append htext more
    exact absurd (h.symm.trans hfault) (by simp)
  | ok parts =>
    obtain ⟨first, pending'⟩ := parts
    cases hmore : drain (pending' ++ more) with
    | error fault =>
      obtain ⟨fault', hfault⟩ := drain_append_error htext hmore
      exact absurd (h.symm.trans hfault) (by simp)
    | ok parts =>
      have hsame := Except.ok.inj (h.symm.trans (drain_append_ok htext hmore))
      exact ⟨first, parts.1, pending', congrArg Prod.fst hsame, rfl⟩

/-! ## Chunks -/

/-- A chunk that completes payloads. -/
theorem feed_of_ok {pending chunk pending' : List Char} {payloads : List (List Char)}
    (h : drain (pending ++ chunk) = .ok (payloads, pending')) :
    feed pending chunk = (.ok payloads, pending') := by
  unfold feed
  rw [h]

/-- A chunk with a fault leaves nothing pending. -/
theorem feed_of_error {pending chunk : List Char} {fault : FrameFault}
    (h : drain (pending ++ chunk) = .error fault) : feed pending chunk = (.error fault, []) := by
  unfold feed
  rw [h]

/-- What a chunk yields comes before what the later ones do. -/
theorem feedAll_cons (pending chunk : List Char) (chunks : List (List Char)) :
    (feedAll pending (chunk :: chunks)).1 =
      (feed pending chunk).1 :: (feedAll (feed pending chunk).2 chunks).1 :=
  rfl

/-- Chunks fed after a text without a fault either find one, and there is one in the whole text, or
complete what the whole text does. -/
theorem feedAll_of_drain {text pending : List Char} {payloads : List (List Char)}
    (h : drain text = .ok (payloads, pending)) (chunks : List (List Char)) :
    ((∃ fault, .error fault ∈ (feedAll pending chunks).1) ∧
        ∃ fault, drain (text ++ chunks.flatten) = .error fault) ∨
      ∃ lists : List (List (List Char)), (feedAll pending chunks).1 = lists.map .ok ∧
        drain (text ++ chunks.flatten) =
          .ok (payloads ++ lists.flatten, (feedAll pending chunks).2) := by
  induction chunks generalizing text payloads pending with
  | nil =>
    refine Or.inr ⟨[], rfl, ?_⟩
    rw [List.flatten_nil, List.flatten_nil, List.append_nil, List.append_nil]
    exact h
  | cons chunk chunks ih =>
    rw [List.flatten_cons, ← List.append_assoc]
    unfold feedAll
    cases hchunk : drain (pending ++ chunk) with
    | error fault =>
      obtain ⟨fault', hfault⟩ := drain_append_error h hchunk
      rw [feed_of_error hchunk]
      exact Or.inl ⟨⟨fault, List.mem_cons_self⟩, drain_error_append hfault chunks.flatten⟩
    | ok parts =>
      obtain ⟨first, pending'⟩ := parts
      rw [feed_of_ok hchunk]
      rcases ih (drain_append_ok h hchunk) with ⟨⟨fault, hmem⟩, hfault⟩ | ⟨lists, hlists, hdrain⟩
      · exact Or.inl ⟨⟨fault, List.mem_cons_of_mem _ hmem⟩, hfault⟩
      · refine Or.inr ⟨first :: lists, congrArg (Except.ok first :: ·) hlists, ?_⟩
        rw [hdrain, List.flatten_cons, List.append_assoc]

/-- **Where a text is cut makes no difference.**  Some chunk is found at fault exactly when the
whole text is; when none is, the chunks yield the payloads that the whole text does, and leave the
same pending; and what starts a text of complete frames is never found at fault, however it is
cut. -/
theorem feedAll_flatten (chunks : List (List Char)) :
    ((∃ fault, .error fault ∈ (feedAll [] chunks).1) ↔
        ∃ fault, (feed [] chunks.flatten).1 = .error fault) ∧
      (∀ lists : List (List (List Char)), (feedAll [] chunks).1 = lists.map .ok →
        feed [] chunks.flatten = (.ok lists.flatten, (feedAll [] chunks).2)) ∧
      (∀ more payloads, decode (chunks.flatten ++ more) = .ok payloads →
        ∃ lists : List (List (List Char)),
          (feedAll [] chunks).1 = lists.map .ok ∧ lists.flatten <+: payloads) := by
  have hnone (lists : List (List (List Char))) (fault : FrameFault) :
      .error fault ∉ lists.map (Except.ok (ε := FrameFault)) := by simp
  have hnil : drain [] = .ok ([], []) := drain_of_incomplete rfl
  rcases feedAll_of_drain hnil chunks with ⟨⟨fault, hmem⟩, fault', hdrain⟩ | ⟨lists, hlists, hdrain⟩
  · rw [List.nil_append] at hdrain
    refine ⟨⟨fun _ => ⟨fault', ?_⟩, fun _ => ⟨fault, hmem⟩⟩, ?_, ?_⟩
    · rw [feed_of_error hdrain]
    · intro lists hlists
      rw [hlists] at hmem
      exact absurd hmem (hnone lists fault)
    · intro more payloads hmore
      obtain ⟨_, _, _, -, hok⟩ := drain_of_append (decode_eq_ok_iff_drain.mp hmore)
      exact absurd (hok.symm.trans hdrain) (by simp)
  · rw [List.nil_append, List.nil_append] at hdrain
    refine ⟨⟨?_, ?_⟩, ?_, ?_⟩
    · rintro ⟨fault, hmem⟩
      rw [hlists] at hmem
      exact absurd hmem (hnone lists fault)
    · rintro ⟨fault, hfault⟩
      rw [feed_of_ok hdrain] at hfault
      exact absurd hfault (by simp)
    · intro lists' hlists'
      have hsame : lists = lists' :=
        List.map_injective_iff.mpr (fun _ _ => Except.ok.inj) (hlists.symm.trans hlists')
      rw [feed_of_ok hdrain, hsame]
    · intro more payloads hmore
      obtain ⟨first, later, _, rfl, hok⟩ := drain_of_append (decode_eq_ok_iff_drain.mp hmore)
      have hsame : first = lists.flatten :=
        congrArg Prod.fst (Except.ok.inj (hok.symm.trans hdrain))
      exact ⟨lists, hlists, later, by rw [hsame]⟩

end CandleFeed.Frame

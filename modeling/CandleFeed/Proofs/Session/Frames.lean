import CandleFeed.Proofs.Market.Instrument
import CandleFeed.Proofs.Session.Changes
import CandleFeed.Proofs.Session.Link
import CandleFeed.Proofs.Wire.Command

/-!
# Frames about subscriptions

On a session, `quote_add_symbols` adds an instrument and `quote_remove_symbols` removes it, each with
the session and the written form of the instrument: **`addFrame`** and **`removeFrame`** are the
texts.  What a client writes of a change is the text of that change (`frame_on`).

A text tells its change (**`SubscriptionChange.frame_injective`**).  So what holds of changes can be
read off the texts: that those about an instrument are an addition, a removal, an addition, and so on
(**`FramesAlternate`**), and that it was added and not removed since (**`FramesStand`**).
-/

namespace CandleFeed

/-- The text of a method with a session and an instrument. -/
def symbolFrame (method session : String) (i : Instrument) : List Char :=
  Frame.encode (Json.chars (.obj [("m", .str method),
    ("p", .arr [.str session, .str (i.exchange ++ ":" ++ i.symbol)])]))

/-- The text that adds an instrument. -/
def addFrame (session : String) (i : Instrument) : List Char :=
  symbolFrame "quote_add_symbols" session i

/-- The text that removes an instrument. -/
def removeFrame (session : String) (i : Instrument) : List Char :=
  symbolFrame "quote_remove_symbols" session i

/-- Such a text tells its parts. -/
theorem symbolFrame_inj {method method' session session' : String} {i i' : Instrument}
    (h : symbolFrame method session i = symbolFrame method' session' i') :
    method = method' ∧ session = session' ∧ i = i' := by
  have hread (method session : String) (i : Instrument) :=
    Json.read_render (Json.plain_message method [session, i.exchange ++ ":" ++ i.symbol])
  have hboth := congrArg (fun cs => Json.read (String.ofList cs)) (Frame.encode_injective h)
  have hsame := (hread method session i).symm.trans (hboth.trans (hread method' session' i'))
  simp only [Option.some.injEq, Json.obj.injEq, List.cons.injEq, Prod.mk.injEq, Json.str.injEq,
    Json.arr.injEq, List.map_cons, List.map_nil, true_and, and_true] at hsame
  obtain ⟨hmethod, hsession, hname⟩ := hsame
  exact ⟨hmethod, hsession, Instrument.name_injective hname⟩

namespace SubscriptionChange

/-- The text of a change on a session. -/
def frame (session : String) : SubscriptionChange → List Char
  | add i => addFrame session i
  | remove i => removeFrame session i

/-- What is to be written of a change is its text. -/
theorem frame_on (session : String) (change : SubscriptionChange) :
    (change.on session).frame = change.frame session := by cases change <;> rfl

/-- The texts of what is to be written of changes. -/
theorem map_frame_on (session : String) (changes : List SubscriptionChange) :
    (changes.map (·.on session)).map Outgoing.frame = changes.map (frame session) := by
  rw [List.map_map]
  exact List.map_congr_left fun change _ => frame_on session change

/-- **A text tells its change.** -/
theorem frame_injective (session : String) : Function.Injective (frame session) := by
  intro change change' h
  cases change <;> cases change' <;> obtain ⟨hmethod, -, rfl⟩ := symbolFrame_inj h <;>
    first | rfl | exact absurd hmethod (by decide)

/-- A change is about an instrument when its text is one of the two that are. -/
theorem frame_about_iff {session : String} {i : Instrument} {change : SubscriptionChange} :
    (change.frame session = addFrame session i ∨ change.frame session = removeFrame session i) ↔
      change.instrument = i := by
  have hadd : change.frame session = addFrame session i ↔ change = .add i :=
    (frame_injective session).eq_iff (b := .add i)
  have hremove : change.frame session = removeFrame session i ↔ change = .remove i :=
    (frame_injective session).eq_iff (b := .remove i)
  rw [hadd, hremove]
  cases change <;> simp [instrument]

end SubscriptionChange

open SubscriptionChange

/-- Of the texts, those about an instrument are an addition, a removal, an addition, and so on. -/
def FramesAlternate (session : String) (i : Instrument) (frames : List (List Char)) : Prop :=
  ∀ (k : Nat) (frame : List Char),
    (frames.filter fun f => f = addFrame session i ∨ f = removeFrame session i)[k]? = some frame →
      frame = if k % 2 = 0 then addFrame session i else removeFrame session i

/-- By the texts, an instrument was added and not removed since. -/
def FramesStand (session : String) (i : Instrument) (frames : List (List Char)) : Prop :=
  ∃ before after, frames = before ++ addFrame session i :: after ∧ removeFrame session i ∉ after

/-- **The texts of changes that alternate do so.** -/
theorem framesAlternate_map {i : Instrument} {changes : List SubscriptionChange}
    (h : Alternate i changes) (session : String) :
    FramesAlternate session i (changes.map (frame session)) := by
  have hfilter : (changes.map (frame session)).filter
      (fun f => f = addFrame session i ∨ f = removeFrame session i) =
        (about i changes).map (frame session) := by
    unfold about
    rw [List.filter_map]
    refine congrArg _ (List.filter_congr fun change _ => ?_)
    simp only [Function.comp_apply, frame_about_iff]
  intro k text hk
  rw [hfilter, List.getElem?_map, Option.map_eq_some_iff] at hk
  obtain ⟨change, hchange, rfl⟩ := hk
  rw [h k change hchange]
  split <;> rfl

/-- **The texts of changes tell which instruments stand.** -/
theorem framesStand_map_iff {i : Instrument} {changes : List SubscriptionChange}
    {session : String} :
    FramesStand session i (changes.map (frame session)) ↔ Stands i changes := by
  constructor
  · rintro ⟨before, after, heq, hnot⟩
    obtain ⟨before, rest, rfl, rfl, hrest⟩ := List.map_eq_append_iff.mp heq
    obtain ⟨change, after, rfl, hchange, rfl⟩ := List.map_eq_cons_iff.mp hrest
    obtain rfl : change = .add i := frame_injective session hchange
    exact ⟨before, after, rfl, fun hmem => hnot (List.mem_map_of_mem hmem)⟩
  · rintro ⟨before, after, rfl, hnot⟩
    refine ⟨before.map (frame session), after.map (frame session), ?_, fun hmem => ?_⟩
    · rw [List.map_append, List.map_cons]
      rfl
    · obtain ⟨change, hchange, heq⟩ := List.mem_map.mp hmem
      obtain rfl : change = .remove i := frame_injective session heq
      exact hnot hchange

end CandleFeed

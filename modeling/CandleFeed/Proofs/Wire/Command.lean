import CandleFeed.Proofs.Dispatch.Verdict
import CandleFeed.Proofs.Market.Records
import CandleFeed.Proofs.Wire.Frame

/-!
# Commands, read by the other side

The JSON of a command holds nothing but strings, so that it is read as it was written whatever
characters they have (`Command.read_payload`), and its payload starts with a brace, which no
heartbeat does (`Command.isHeartbeat_payload`).

What the provider takes out of the frame of a command is **`Command.Understood`**: the one payload,
its method, and its parameters in their order.  **`Command.frame_understood`** gives both for every
command whose payload is within the limit, and only the decoding depends on the limit
(`Command.decode_frame_iff`).
-/

namespace CandleFeed

namespace Json

/-- A method and parameters are strings, which are read as they are written. -/
theorem plain_message (method : String) (parameters : List String) :
    Plain (.obj [("m", .str method), ("p", .arr (parameters.map .str))]) := by
  refine .obj _ fun member hmember => ?_
  simp only [List.mem_cons, List.not_mem_nil, or_false] at hmember
  rcases hmember with rfl | rfl
  · exact .str _
  · refine .arr _ fun v hv => ?_
    obtain ⟨s, -, rfl⟩ := List.mem_map.mp hv
    exact .str s

/-- Strings do not nest. -/
theorem readableItems_strings (depth : Nat) (texts : List String) :
    readableItems depth (texts.map str) = true := by
  induction texts with
  | nil => simp only [List.map_nil, readableItems]
  | cons s texts ih =>
    rw [List.map_cons, readableItems, ih, Bool.and_true]
    cases depth <;> rfl

/-- Strings are settled. -/
theorem settle_strings (texts : List String) : (texts.map str).map settle = texts.map str := by
  rw [List.map_map]
  exact List.map_congr_left fun s _ => rfl

end Json

namespace Command

open Json (readableWithin)

/-- **A payload is read as the JSON of its command.** -/
theorem read_payload (c : Command) : Json.read (String.ofList c.payload) = some c.toJson :=
  Json.read_render (Json.plain_message c.method c.parameters)

/-- A command nests two levels deep. -/
theorem readableWithin_toJson (c : Command) (depth : Nat) :
    readableWithin (depth + 2) c.toJson = true := by
  simp only [toJson, readableWithin, Json.readableMembers, Json.readableItems_strings,
    Bool.and_true]

/-- The payload of a command is no heartbeat. -/
theorem isHeartbeat_payload (c : Command) : Message.isHeartbeat c.payload = false := by
  unfold payload toJson
  rw [Json.chars]
  rfl

/-- The other side decodes a frame exactly when its payload is within the limit. -/
theorem decode_frame_iff (c : Command) :
    Frame.decode c.frame = .ok [c.payload] ↔ Frame.byteCount c.payload ≤ Frame.maxBytes := by
  rw [Frame.decode_eq_ok_iff, List.forall_mem_singleton, List.flatMap_singleton]
  exact and_iff_right rfl

/-- A command has parameters. -/
theorem parameters_ne_nil (c : Command) : c.parameters ≠ [] := by
  cases c <;> exact List.cons_ne_nil _ _

/-- The parts of the message that a command is: its method and its parameters. -/
theorem reads_payload (c : Command) :
    Message.Reads c.payload ⟨some c.method, c.parameters.map .str, none⟩ := by
  constructor
  · rw [← Message.isHeartbeat_iff, c.isHeartbeat_payload]
    exact Bool.false_ne_true
  · rw [c.read_payload, Option.bind_some]
    have hall : (c.parameters.map Json.str).all
        (readableWithin (depthLimit - 2)) = true := by
      rw [List.all_map, List.all_eq_true]
      exact fun s _ => rfl
    have hparameters : Message.parameters? (.arr (c.parameters.map .str)) =
        some (c.parameters.map .str) := by
      simp only [Message.parameters?, Json.items?, Option.bind_eq_bind, Option.bind_some, hall,
        if_true, Json.settle_strings]
    have hfields : Json.fields ["m", "p", "session_id"] 0 c.toJson =
        some [some (.str c.method), some (.arr (c.parameters.map .str)), none] := rfl
    simp only [Message.parts?, hfields, Option.bind_eq_bind, Option.bind_some, Json.optional,
      Json.text?, Json.defaulting, hparameters, Option.map_some]
    rfl

/-- The provider takes a method and parameters out of the frame of a command. -/
structure Understood (c : Command) (method : String) (parameters : List String) : Prop where
  /-- The frame holds one payload. -/
  decoded : Frame.decode (Frame.encode c.payload) = .ok [c.payload]
  /-- It is the JSON object of the method and the parameters in their order. -/
  read : Json.read (String.ofList c.payload) =
    some (.obj [("m", .str method), ("p", .arr (parameters.map .str))])
  /-- At a glance it is the method and the last parameter. -/
  summary : ∃ last ∈ parameters.getLast?, summary (Frame.encode c.payload) = (method, last)
  /-- As a message it has a method that nothing is done about, and it is no heartbeat. -/
  message : Message.parse c.payload = .ok (.other method)
  notHeartbeat : Message.isHeartbeat c.payload = false

/-- A command whose payload is within the limit is understood as the method and the parameters that
it has. -/
theorem understood_of_le (c : Command) (h : Frame.byteCount c.payload ≤ Frame.maxBytes) :
    c.Understood c.method c.parameters := by
  have hdecode : Frame.decode (Frame.encode c.payload) = .ok [c.payload] :=
    c.decode_frame_iff.mpr h
  refine ⟨hdecode, c.read_payload, ?_, ?_, c.isHeartbeat_payload⟩
  · have hlast : c.parameters.getLast? = some (c.parameters.getLast c.parameters_ne_nil) :=
      List.getLast?_eq_some_getLast _
    have hmark : heartbeatMark.isPrefixOf c.payload = false := c.isHeartbeat_payload
    have hp : c.toJson.member? "p" = some (.arr (c.parameters.map .str)) := rfl
    have hm : c.toJson.member? "m" = some (.str c.method) := rfl
    refine ⟨_, hlast, ?_⟩
    simp only [Command.summary, hdecode, List.getLast?_singleton, Option.getD_some,
      hmark, Bool.false_eq_true, if_false, c.read_payload, Option.filter_some, depthLimit,
      c.readableWithin_toJson 125, if_true, hp, hm, Option.bind_some, Json.items?,
      List.getLast?_map, hlast, Option.map_some, Json.text?]
  · rw [(Message.parse_of_reads c.reads_payload).1 c.method rfl]
    cases c <;> rfl

/-- **Commands are understood as what was asked**, whatever characters their strings have: each has
its method, and of its parameters the session comes first, then the fields or the name of the
instrument. -/
theorem frame_understood :
    (∀ token, Frame.byteCount (setAuthToken token).payload ≤ Frame.maxBytes →
      (setAuthToken token).Understood "set_auth_token" [token]) ∧
    (∀ session, Frame.byteCount (createSession session).payload ≤ Frame.maxBytes →
      (createSession session).Understood "quote_create_session" [session]) ∧
    (∀ session fields, Frame.byteCount (setFields session fields).payload ≤ Frame.maxBytes →
      (setFields session fields).Understood "quote_set_fields" (session :: fields)) ∧
    (∀ session i, Frame.byteCount (addSymbol session i).payload ≤ Frame.maxBytes →
      (addSymbol session i).Understood "quote_add_symbols"
        [session, i.exchange ++ ":" ++ i.symbol]) ∧
    ∀ session i, Frame.byteCount (removeSymbol session i).payload ≤ Frame.maxBytes →
      (removeSymbol session i).Understood "quote_remove_symbols"
        [session, i.exchange ++ ":" ++ i.symbol] :=
  ⟨fun _ => understood_of_le _, fun _ => understood_of_le _, fun _ _ => understood_of_le _,
    fun _ _ => understood_of_le _, fun _ _ => understood_of_le _⟩

/-- Quotes, escapes, control characters and the marks of frames and heartbeats go through. -/
theorem frame_understood_marks : ∃ i : Instrument, i.symbol = "~m~3~m~\x00" ∧
    (setAuthToken "\"\\").Understood "set_auth_token" ["\"\\"] ∧
    (createSession "~h~1").Understood "quote_create_session" ["~h~1"] ∧
    (setFields "~h~1\"\\" ["~m~3~m~", "\n\x00", "é漢😀"]).Understood "quote_set_fields"
      ["~h~1\"\\", "~m~3~m~", "\n\x00", "é漢😀"] ∧
    (addSymbol "é漢😀" i).Understood "quote_add_symbols" ["é漢😀", "~H~:~m~3~m~\x00"] ∧
    (removeSymbol "" i).Understood "quote_remove_symbols" ["", "~H~:~m~3~m~\x00"] := by
  let i : Instrument := ⟨"~H~", "~m~3~m~\x00", by decide, by decide, by decide⟩
  obtain ⟨hauth, hsession, hfields, hadd, hremove⟩ := frame_understood
  exact ⟨i, rfl, hauth _ (by decide), hsession _ (by decide), hfields _ _ (by decide),
    hadd _ i (by decide), hremove _ i (by decide)⟩

end Command

end CandleFeed

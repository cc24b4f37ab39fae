import CandleFeed.Json.Printer
import CandleFeed.Json.Reader
import CandleFeed.Market.Instrument
import CandleFeed.Wire.Frame

/-!
# Commands to the provider

A **`Command`** is what the client asks of the provider: a method and its parameters, sent as the
JSON object `{"m":method,"p":[parameters]}`.  **`Command.payload`** is that text.

**`Command.summary`** looks at a frame from the provider's side: the method and the last parameter
of the command in it.
-/

namespace CandleFeed

/-- What the client asks of the provider. -/
inductive Command where
  /-- Presents the token that the account holds. -/
  | setAuthToken (token : String)
  /-- Opens a session for quotes. -/
  | createSession (session : String)
  /-- Selects the fields of the session's quotes. -/
  | setFields (session : String) (fields : List String)
  /-- Adds an instrument to the session. -/
  | addSymbol (session : String) (instrument : Instrument)
  /-- Takes an instrument out of the session. -/
  | removeSymbol (session : String) (instrument : Instrument)
deriving DecidableEq

namespace Command

/-- The name of the method. -/
def method : Command → String
  | setAuthToken _ => "set_auth_token"
  | createSession _ => "quote_create_session"
  | setFields _ _ => "quote_set_fields"
  | addSymbol _ _ => "quote_add_symbols"
  | removeSymbol _ _ => "quote_remove_symbols"

/-- The parameters; a session comes first. -/
def parameters : Command → List String
  | setAuthToken token => [token]
  | createSession session => [session]
  | setFields session fields => session :: fields
  | addSymbol session instrument => [session, instrument.name]
  | removeSymbol session instrument => [session, instrument.name]

/-- The command as JSON. -/
def toJson (c : Command) : Json :=
  .obj [("m", .str c.method), ("p", .arr (c.parameters.map Json.str))]

/-- The text that is sent. -/
def payload (c : Command) : List Char := Json.chars c.toJson

/-- The frame that is sent. -/
def frame (c : Command) : List Char := Frame.encode c.payload

/-- What starts a heartbeat. -/
def heartbeatMark : List Char := ['~', 'h', '~']

/-- The deepest nesting of a value that is read. -/
def depthLimit : Nat := 127

/-- The method and the last parameter of the last command in a frame, empty where there is none;
an echoed heartbeat counts as a command with its number as parameter. -/
def summary (frame : List Char) : String × String :=
  let payload :=
    match Frame.decode frame with
    | .ok payloads => payloads.getLast?.getD []
    | .error _ => []
  if heartbeatMark.isPrefixOf payload then
    (String.ofList heartbeatMark, String.ofList (payload.drop heartbeatMark.length))
  else
    let value := ((Json.read (String.ofList payload)).filter (Json.readableWithin depthLimit)).getD
      .null
    let last := ((value.member? "p").bind Json.items?).bind List.getLast?
    (((value.member? "m").bind Json.text?).getD "", (last.bind Json.text?).getD "")

end Command

end CandleFeed

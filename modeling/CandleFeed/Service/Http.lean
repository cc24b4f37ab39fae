import CandleFeed.Monitoring.Metrics
import CandleFeed.Service.Basic

/-!
# Questions over HTTP

A service answers four questions over HTTP: whether it is there, whether it is ready, how it is, and
what it has counted.  **`HttpReply.forRequest`** is the answer to a request.  The target of a
request may name a host in front of its path and have a query behind it; neither counts.  A question
can be put with `GET`, or with `HEAD` for all of the answer but its body.
-/

namespace CandleFeed

/-- An answer. -/
structure HttpReply where
  /-- Its code. -/
  code : Nat
  /-- What kind of text its body is. -/
  contentType : Option String
  /-- Its body. -/
  body : String
deriving DecidableEq, Repr

/-- A question. -/
inductive HttpRoute where
  | health | ready | status | metrics
deriving DecidableEq, Repr

namespace HttpRoute

/-- The question on a path. -/
def ofPath? : String → Option HttpRoute
  | "/health" => some health
  | "/ready" => some ready
  | "/status" => some status
  | "/metrics" => some metrics
  | _ => none

/-- What comes after a host. -/
def afterHost : List Char → List Char
  | ':' :: '/' :: '/' :: rest => rest.dropWhile (· != '/')
  | _ :: rest => afterHost rest
  | [] => []

/-- The path of a target. -/
def pathOf (target : String) : String :=
  let bare := target.toList.takeWhile fun c => c != '?' && c != '#'
  String.ofList (if bare.head? == some '/' then bare else afterHost bare)

end HttpRoute

namespace HttpReply

/-- The kind of text that numbers come in. -/
def metricsType : String := "text/plain; version=0.0.4"

/-- An answer with a record. -/
def json (code : Nat) (v : Json) : HttpReply := ⟨code, some "application/json", v.render⟩

/-- An answer without a body. -/
def bare (code : Nat) : HttpReply := ⟨code, none, ""⟩

/-- A word on the service and its connection. -/
def word (state : ConnectionState) (text : String) : Json :=
  .obj [("status", .str text), ("connection_state", .str state.name)]

/-- The answer to a question. -/
def answer (s : Service) (counts : Metrics) : HttpRoute → HttpReply
  | .health => json 200 (word s.client.state "ok")
  | .ready =>
    if s.client.isConnected then json 200 (word s.client.state "ready")
    else json 503 (word s.client.state "not_ready")
  | .status => json 200 s.status.toJson
  | .metrics => ⟨200, some metricsType, counts.text⟩

/-- The answer to a request. -/
def forRequest (s : Service) (counts : Metrics) (method target : String) : HttpReply :=
  match HttpRoute.ofPath? (HttpRoute.pathOf target) with
  | none => bare 404
  | some route =>
    if method == "GET" then answer s counts route
    else if method == "HEAD" then { answer s counts route with body := "" }
    else bare 405

end HttpReply

end CandleFeed

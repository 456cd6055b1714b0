import ApiReview.Json.Reader
import ApiReview.Remote.Response
import ApiReview.Schema.Build

/-!
Downloading a schema: its text, the JSON in it, and a validator built from that. Documents
that the schema refers to are downloaded as well.
-/
namespace ApiReview.Remote

/-- Why a schema was not had from a server. -/
inductive Failure where
  | noClient
  | unreachable (url : String)
  | refused (status : Nat) (url : String)
  | unreadable (url : String)
  | notJson (url : String) (e : Json.ReadError)
  | invalid (e : Schema.Error)
  /-- An error that another call had before. -/
  | earlier (message : String)

/-- What a transport says of its own failures is left out. -/
def Failure.message : Failure → String
  | noClient => "Failed to build HTTP client"
  | unreachable url => "request to " ++ url ++ " failed"
  | refused status url => "HTTP " ++ statusText status ++ " fetching " ++ url
  | unreadable url => "reading body of " ++ url ++ " failed"
  | notJson url e => url ++ " is not a JSON document: " ++ e.message
  | invalid e => "invalid schema: " ++ e.message
  | earlier message => message

/-- A byte order mark in front of a text does not belong to it. -/
def withoutMark (body : String) : String :=
  match body.toList with
  | '\ufeff' :: rest => String.ofList rest
  | _ => body

/-- The text under a URL. The status is looked at before the body. -/
def fetch (server : Server) (url : String) : Except Failure String :=
  match server url with
  | .unsent => .error .noClient
  | .unreachable => .error (.unreachable url)
  | .brokenOff status =>
    .error (if isSuccess status then .unreadable url else .refused status url)
  | .answered status body =>
    if isSuccess status then .ok (withoutMark body) else .error (.refused status url)

/-- A document that a schema refers to; where it is no JSON only the fault itself is told. -/
def retrieve (server : Server) (url : String) : Except String Json := do
  let body ← (fetch server url).mapError Failure.message
  (Json.read body).mapError Json.ReadError.message

/-- Downloads a schema, removes its own identifier and builds its validator. -/
def download (server : Server) (url : String) : Except Failure Schema.Validator := do
  let body ← fetch server url
  let schema ← (Json.read body).mapError (Failure.notJson url)
  (Schema.Validator.build (retrieve server) (Schema.withoutSelfId schema)).mapError .invalid

end ApiReview.Remote

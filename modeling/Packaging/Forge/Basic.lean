import Packaging.Assets
import Packaging.Http

/-! # Forges

A forge knows the commits of Git references and the files published under a release. A session keeps
a journal of what was asked, also when it fails. -/

namespace Packaging

/-- Why a forge gives no answer. -/
inductive ForgeError where
  /-- The token cannot be sent. -/
  | invalidToken
  /-- No request can be made for what should be asked; it is an address even so, or none. -/
  | badAddress (address : Option String)
  /-- No one is reached. -/
  | unreachable (url : Url)
  /-- The request has failed. -/
  | status (code : Nat) (url : Url)
  /-- The answer is not what it should be. -/
  | undecodable
  /-- The forge has no answer. -/
  | unknown
  deriving DecidableEq

/-- The end of the wording of an error that is about an address. -/
def ForgeError.forUrl (address : String) : String := " for url (" ++ address ++ ")"

/-- The wording of an error. -/
def ForgeError.message : ForgeError → String
  | invalidToken => "Invalid API token: failed to parse header value"
  | badAddress none => "HTTP error: builder error"
  | badAddress (some address) => "HTTP error: builder error" ++ forUrl address
  | unreachable url => "HTTP error: error sending request" ++ forUrl url.text
  | status code url =>
    "HTTP error: HTTP status " ++ (if code < 500 then "client" else "server") ++ " error (" ++
      toString code ++ " " ++ Http.reason code ++ ")" ++ forUrl url.withoutFragment
  | undecodable => "HTTP error: error decoding response body"
  | unknown => "the forge has no answer"

/-- The answer of a forge, and the requests that were answered to get it. -/
structure Reply (α : Type) where
  requests : List Http.Request := []
  outcome : Except ForgeError α

/-- A place that knows commits and published files. It does not change while it is asked: whoever
looks up a reference again gets the same answer. -/
structure Forge where
  /-- What the forge is called in messages. -/
  key : String
  /-- The commit of a Git reference. -/
  resolveRef : String → Reply String
  /-- The files published under the release. -/
  releaseAssets : Reply Assets

/-- What a forge can be asked for. -/
inductive Lookup where
  | assets
  | ref (name : String)
  deriving DecidableEq

/-- What happened in a session, the first thing first. -/
structure Journal where
  log : List String := []
  lookups : List Lookup := []
  requests : List Http.Request := []

/-- A session with a forge. -/
abbrev Session := ExceptT ForgeError (StateM Journal)

namespace Session

/-- Logs a message. -/
def log (message : String) : Session Unit := modify fun j => { j with log := j.log ++ [message] }

/-- Asks a forge. -/
def ask {α : Type} (lookup : Lookup) (reply : Reply α) : Session α := do
  modify fun j =>
    { j with lookups := j.lookups ++ [lookup], requests := j.requests ++ reply.requests }
  match reply.outcome with
  | .ok a => return a
  | .error e => throw e

end Session

end Packaging

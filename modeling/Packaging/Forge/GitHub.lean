import Packaging.Document.Schema
import Packaging.Forge.Basic
import Packaging.Json.Reader
import Packaging.Plan
import Packaging.Text.Base64

/-! # GitHub

GitHub answers for the commit of a reference with an object that has the hash inside, and for a
release with an object that lists its files. -/

namespace Packaging.GitHub

open Document Http

/-- The address of GitHub's own interface. -/
def defaultApi : String := "https://api.github.com/"

/-- The version of the program. -/
def version : String := "0.1.0"

/-- What the program is called in requests. -/
def userAgent : String := "tiledb-pkg/" ++ version

/-- The form of the answers. -/
def accept : String := "application/vnd.github+json"

/-- Who asks. -/
structure Client where
  /-- What is sent as a proof, if anything is. -/
  authorization : Option String
  deriving DecidableEq

/-- Whether a byte may be sent: a tab, or no control. -/
def isSendable (b : UInt8) : Bool := b = 9 || (32 ≤ b && b ≠ 127)

/-- The client with a token; an empty token is none. -/
def Client.ofToken (token : Option String) : Except ForgeError Client :=
  match token with
  | none | some "" => .ok ⟨none⟩
  | some t =>
    if (Text.bytesOf t).all isSendable then .ok ⟨some ("Bearer " ++ t)⟩ else .error .invalidToken

/-! ## Answers -/

section Answers

variable {v : Type} [Format v]

/-- Reads a record with one field of all its fields. -/
def readField {α : Type} (title key : String) (read : v → Except Fault α) : v → Except Fault α :=
  (Schema.single title key).read (fun _ => read) Schema.ignored

/-- Reads the commit of a reference. -/
def readCommit : v → Except Fault String :=
  readField "struct GitRef" "object" (readField "struct GitObject" "sha" readString)

/-- Reads the names of the files of a release. -/
def readAssets : v → Except Fault (List String) :=
  readField "struct Release" "assets" (readList (readField "struct ReleaseAsset" "name" readString))

end Answers

/-! ## Requests -/

/-- The request for what an address leads to. A user that the address names is who asks. -/
def requestFor (client : Client) (url : Url) : Request where
  url := url
  userAgent := userAgent
  accept := accept
  authorization :=
    match url.login with
    | some login => some ("Basic " ++ String.ofList (Text.Base64.encode login))
    | none => client.authorization

@[simp] theorem requestFor_url (client : Client) (url : Url) : (requestFor client url).url = url :=
  rfl

example : (["http://u:p%41@a", "http://a"].map fun address =>
    (Url.ofText? address).bind fun url => (requestFor ⟨some "Bearer t"⟩ url).authorization) =
      [some "Basic dTpwQQ==", some "Bearer t"] := by decide +kernel

/-- Asks for what an address leads to and reads the answer. What no request can be made for fails
with the address that it is, if it is one. -/
def fetch {α : Type} (transport : Transport) (client : Client)
    (read : Json.Placed → Except Fault α) (address : String) : Reply α :=
  match Url.ofText? address with
  | none => { outcome := .error (.badAddress ((Address.ofText? address).map Address.text)) }
  | some url =>
    match transport (requestFor client url) with
    | none => { outcome := .error (.unreachable url) }
    | some response =>
      { requests := [requestFor client url]
        outcome :=
          if isFailure response.status then .error (.status response.status url)
          else match Json.readBytes read response.body with
            | .ok a => .ok a
            | .error _ => .error .undecodable }

/-- The address of an interface without the slashes at its end. -/
def base (api : String) : String := Text.dropTrailing '/' api

/-- The address of a reference. -/
def refAddress (api repository ref : String) : String :=
  base api ++ "/repos/" ++ repository ++ "/git/ref/" ++ ref

/-- The address of a release. -/
def releaseAddress (api repository tag : String) : String :=
  base api ++ "/repos/" ++ repository ++ "/releases/tags/" ++ tag

/-- GitHub as the forge of a plan. -/
def forge (transport : Transport) (client : Client) (api : String) (plan : Plan) : Forge where
  key := "github:" ++ base api
  resolveRef ref :=
    fetch transport client readCommit (refAddress api plan.sourceRepository ref)
  releaseAssets :=
    fetch transport client (fun x => Assets.ofList <$> readAssets x)
      (releaseAddress api plan.releaseRepository plan.releaseTag)

end Packaging.GitHub

import Packaging.Url.Address

/-! # Requests and responses

A transport answers requests, or does not reach anyone. A table of responses is a transport, too.
Responses have a status and a body, and no place that they lead on to: what comes to a request is
the last answer to it. -/

namespace Packaging.Http

/-- A request for what an address leads to. -/
structure Request where
  url : Url
  userAgent : String
  accept : String
  /-- What proves who asks, if anything does. -/
  authorization : Option String
  deriving DecidableEq

/-- A response to a request. It says nowhere where else to ask, so one that says that something has
moved is taken as it is. -/
structure Response where
  status : Nat
  body : List UInt8
  deriving DecidableEq

/-- What answers requests; nothing when no one is reached. -/
abbrev Transport := Request → Option Response

/-- The transport that reaches no one. -/
def Transport.unreachable : Transport := fun _ => none

/-- Whether responses with a status have no body. -/
def isBodiless (status : Nat) : Bool := status = 204 || status = 304

/-- The transport that answers from a table of targets; for any other target nothing is found. -/
def Transport.ofTable (table : List (String × Response)) : Transport := fun request =>
  match table.lookup request.url.target with
  | some response =>
    some (if isBodiless response.status then { response with body := [] } else response)
  | none => some ⟨404, []⟩

/-- Whether a status says that the request has failed. -/
def isFailure (status : Nat) : Bool := 400 ≤ status && status < 600

/-- What the status of a request that has failed is called. -/
def reason : Nat → String
  | 400 => "Bad Request"
  | 401 => "Unauthorized"
  | 402 => "Payment Required"
  | 403 => "Forbidden"
  | 404 => "Not Found"
  | 405 => "Method Not Allowed"
  | 406 => "Not Acceptable"
  | 407 => "Proxy Authentication Required"
  | 408 => "Request Timeout"
  | 409 => "Conflict"
  | 410 => "Gone"
  | 411 => "Length Required"
  | 412 => "Precondition Failed"
  | 413 => "Payload Too Large"
  | 414 => "URI Too Long"
  | 415 => "Unsupported Media Type"
  | 416 => "Range Not Satisfiable"
  | 417 => "Expectation Failed"
  | 418 => "I'm a teapot"
  | 421 => "Misdirected Request"
  | 422 => "Unprocessable Entity"
  | 423 => "Locked"
  | 424 => "Failed Dependency"
  | 425 => "Too Early"
  | 426 => "Upgrade Required"
  | 428 => "Precondition Required"
  | 429 => "Too Many Requests"
  | 431 => "Request Header Fields Too Large"
  | 451 => "Unavailable For Legal Reasons"
  | 500 => "Internal Server Error"
  | 501 => "Not Implemented"
  | 502 => "Bad Gateway"
  | 503 => "Service Unavailable"
  | 504 => "Gateway Timeout"
  | 505 => "HTTP Version Not Supported"
  | 506 => "Variant Also Negotiates"
  | 507 => "Insufficient Storage"
  | 508 => "Loop Detected"
  | 510 => "Not Extended"
  | 511 => "Network Authentication Required"
  | _ => "<unknown status code>"

end Packaging.Http

import RequestRouting.Headers
import RequestRouting.Json.Basic
import RequestRouting.Params

/-!
# Responses and handler errors

What a request is answered with, and the errors that a handler may return in place of it.
-/

set_option autoImplicit false

namespace RequestRouting

structure Response where
  status : Nat
  headers : Headers
  body : Json

namespace Response

def json (status : Nat) (body : Json) : Response :=
  ⟨status, [("content-type", "application/json")], body⟩

def error (status : Nat) (message : String) : Response :=
  json status (.object [("error", .string message)])

def blank : Response := ⟨200, [], .null⟩

def getHeader? (r : Response) (name : String) : Option String := r.headers.get? name

def setHeader (r : Response) (name value : String) : Response :=
  { r with headers := r.headers.set name value }

def isSuccess (r : Response) : Bool := 200 ≤ r.status && r.status < 300

/-- The stored form, which leaves out the headers. -/
def toJson (r : Response) : Json :=
  Json.ofFields [("status", .ofNat r.status), ("body", r.body)]

end Response

inductive HandlerError where
  | status (code : Nat) (message : String)
  | param (error : ParamError)
  | internal (cause : String)
  deriving DecidableEq

namespace HandlerError

def statusCode : HandlerError → Nat
  | .status code _ => code
  | .param _ => 400
  | .internal _ => 500

def message : HandlerError → String
  | .status _ message => message
  | .param e => e.message
  | .internal cause => "internal handler error: " ++ cause

def source? : HandlerError → Option String
  | .status _ _ => none
  | .param e => some e.message
  | .internal cause => some cause

/-- The answer to the client, which does not tell the cause of an internal error. -/
def response : HandlerError → Response
  | .internal _ => .error 500 "Internal Server Error"
  | e => .error e.statusCode e.message

end HandlerError

/-- What a handler may panic with: a text, or a value that holds none. -/
inductive PanicPayload where
  | text (message : String)
  | other
  deriving DecidableEq

def PanicPayload.message : PanicPayload → String
  | .text message => message
  | .other => "non-string panic payload"

inductive Outcome where
  | ok
  | failed (error : HandlerError)
  | panicked (payload : PanicPayload)
  deriving DecidableEq

end RequestRouting

import RequestRouting.Handler

/-!
# Echo

An endpoint that answers with what it was asked.
-/

set_option autoImplicit false

namespace RequestRouting.Echo

/-- The request as an object: each parameter and query name with its last value. -/
def body (c : Context) : Json :=
  Json.ofFields [
    ("request_id", c.requestId.toJson),
    ("method", .string c.method.token),
    ("path", .string c.path),
    ("pattern", .string c.pattern),
    ("params", c.params.toJson),
    ("query", Json.ofTexts c.query),
    ("body", c.body.getD .null)]

def serve : Service := fun s _ =>
  (.ok, s.mapContext fun c => { c with response := .json 200 (body c) })

def handler (name : String) : Handler := .endpoint name serve

end RequestRouting.Echo

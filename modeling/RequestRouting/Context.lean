import RequestRouting.CancelToken
import RequestRouting.Method
import RequestRouting.Query
import RequestRouting.RequestId
import RequestRouting.Response

/-!
# Request contexts

What the handlers of a chain see of a request, and the response that they build up.
-/

set_option autoImplicit false

namespace RequestRouting

/-- The context that goes through a chain. `state` holds values under names, `extensions` under
the names of their types. -/
structure Context where
  requestId : RequestId
  method : Method
  path : String
  pattern : String := ""
  params : Params := {}
  query : List (String × String) := []
  headers : Headers := []
  body : Option Json := none
  response : Response := .blank
  state : List (String × Json) := []
  extensions : List (String × Json) := []
  signal : CancelSignal := {}

namespace Context

def queryParam? (c : Context) (name : String) : Option String := c.query.reverse.lookup name

def header? (c : Context) (name : String) : Option String := c.headers.get? name

def isCancelled (c : Context) : Bool := c.signal.isCancelled

def cancel (c : Context) : Context := { c with signal := c.signal.cancel }

def setState (c : Context) (name : String) (value : Json) : Context :=
  { c with state := Json.putField name value c.state }

def state? (c : Context) (name : String) : Option Json := c.state.lookup name

def removeState (c : Context) (name : String) : Context :=
  { c with state := c.state.filter fun f => f.1 != name }

def setExtension (c : Context) (type : String) (value : Json) : Context :=
  { c with extensions := Json.putField type value c.extensions }

def extension? (c : Context) (type : String) : Option Json := c.extensions.lookup type

end Context

end RequestRouting

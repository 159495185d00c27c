import RequestRouting.Headers
import RequestRouting.Json.Basic
import RequestRouting.Method
import RequestRouting.RequestId
import RequestRouting.Text.Split

/-!
# Requests

A request as it arrives, before a route is looked up.
-/

set_option autoImplicit false

namespace RequestRouting

structure Request where
  method : Method
  uri : String
  headers : Headers := []
  body : Option Json := none
  requestId : Option RequestId := none

namespace Request

def splitTarget (uri : String) : String × String := (Text.cutFirst '?' uri).getD (uri, "")

def path (r : Request) : String := (splitTarget r.uri).1

def query (r : Request) : String := (splitTarget r.uri).2

end Request

end RequestRouting

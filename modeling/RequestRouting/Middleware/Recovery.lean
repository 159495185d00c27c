import RequestRouting.Execution

/-!
# Recovery

Errors and panics of the handlers behind become responses, so that none of them goes further out.
-/

set_option autoImplicit false

namespace RequestRouting.Recovery

def panicResponse (exposeDetails : Bool) (payload : PanicPayload) : Response :=
  if exposeDetails then .error 500 ("Handler panicked: " ++ payload.message)
  else .error 500 "Internal Server Error"

def errorEvent (e : Execution) (error : HandlerError) : Event :=
  let fields := [e.idField, e.patternField, ("status", .number error.statusCode),
    ("error", .text error.message)]
  if 500 ≤ error.statusCode then .entry .error "Handler failed - recovered" fields
  else .entry .warn "Handler rejected request" fields

def panicEvent (e : Execution) (payload : PanicPayload) : Event :=
  .entry .error "Handler panicked - CRITICAL"
    [e.idField, e.patternField, ("panic_message", .text payload.message)]

/-- Advances; the response to an error or a panic takes the place of the response so far. A panic
also completes the chain. -/
def run (exposeDetails : Bool) (advance : Step) : Step := fun e =>
  match advance e with
  | (.ok, after) => (.ok, after)
  | (.failed error, after) => (.ok, (after.log (errorEvent after error)).respond error.response)
  | (.panicked payload, after) =>
    (.ok, (after.complete.log (panicEvent after payload)).respond
      (panicResponse exposeDetails payload))

end RequestRouting.Recovery

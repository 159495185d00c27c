import RequestRouting.Execution

/-!
# Tracing

Each request is reported in a span; its status is added when the handlers behind have ended.
-/

set_option autoImplicit false

namespace RequestRouting.Tracing

def spanName : String := "request"

def opening (e : Execution) : Event :=
  .opened spanName [e.idField, ("method", .text e.context.method.token),
    ("path", .text e.context.path), e.patternField]

def closing (e : Execution) (status : Nat) : List Event :=
  [.recorded spanName [("status", .number status)],
    .entry .info "Request completed"
      [("status", .number status), ("handlers_run", .number e.cursor)]]

/-- Advances within a span. A panic leaves the span without a status. -/
def run (advance : Step) : Step := fun e =>
  match advance (e.log (opening e)) with
  | (.panicked payload, after) => (.panicked payload, after)
  | (outcome, after) =>
    (outcome, { after with journal := after.journal ++ closing after (after.statusOf outcome) })

end RequestRouting.Tracing

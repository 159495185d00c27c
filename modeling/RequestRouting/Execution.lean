import RequestRouting.Event
import RequestRouting.Handler

/-!
# Executions

Where a request stands in its chain, with all that the handlers share: the scope, the meters and
the journal of events.
-/

set_option autoImplicit false

namespace RequestRouting

/-- `cursor` is the number of handlers entered so far. -/
structure Execution where
  scope : Scope
  cursor : Nat := 0
  state : ChainState := .pending
  meters : Meters := []
  journal : List Event := []

abbrev Step := Execution → Outcome × Execution

namespace Execution

def context (e : Execution) : Context := e.scope.context

def log (e : Execution) (event : Event) : Execution := { e with journal := e.journal ++ [event] }

def mapContext (e : Execution) (f : Context → Context) : Execution :=
  { e with scope := e.scope.mapContext f }

def respond (e : Execution) (r : Response) : Execution :=
  e.mapContext fun c => { c with response := r }

def complete (e : Execution) : Execution := { e with state := .completed }

def view (e : Execution) (length : Nat) : ChainView := ⟨e.state, e.cursor, length⟩

def gauges (e : Execution) : Gauges := e.meters.get

def updateMeter (e : Execution) (name : String) (f : Meter → Meter) : Execution :=
  { e with meters := e.meters.update name f }

def idField (e : Execution) : String × FieldValue :=
  ("request_id", .text e.context.requestId.text)

def patternField (e : Execution) : String × FieldValue :=
  ("route_pattern", .text e.context.pattern)

def statusOf (e : Execution) : Outcome → Nat
  | .failed error => error.statusCode
  | _ => e.context.response.status

end Execution

end RequestRouting

import RequestRouting.Context
import RequestRouting.Meter

/-!
# Handlers

A handler of a route's chain. The built-in middleware is told apart by name; an endpoint answers
from the context and the meters; any other behaviour is a `Program`: it may read and write the
context, read meters, look at the chain, complete it and advance it as often as it likes, and goes
on from what each advance came to.
-/

set_option autoImplicit false

namespace RequestRouting

inductive ChainState where
  | pending
  | running
  | completed
  deriving DecidableEq

def ChainState.name : ChainState → String
  | .pending => "Pending"
  | .running => "Running"
  | .completed => "Completed"

structure ChainView where
  state : ChainState
  position : Nat
  length : Nat
  deriving DecidableEq

namespace ChainView

def remaining (v : ChainView) : Nat := v.length - v.position

def isCompleted (v : ChainView) : Bool := v.state == .completed

def isEmpty (v : ChainView) : Bool := v.length == 0

def debug (v : ChainView) : String :=
  "Chain \x7b len: " ++ toString v.length ++ ", cursor: " ++ toString v.position ++
    ", state: " ++ v.state.name ++ " \x7d"

end ChainView

/-- What handlers may change: the context of the request, and the notes that they share, each
under the name of its author. -/
structure Scope where
  context : Context
  notes : List (String × Json) := []

namespace Scope

def note (s : Scope) (author : String) (value : Json) : Scope :=
  { s with notes := s.notes ++ [(author, value)] }

def mapContext (f : Context → Context) (s : Scope) : Scope := { s with context := f s.context }

end Scope

/-- What the meters show to a handler that shares them with the middleware that counts. -/
abbrev Gauges := String → Meter

/-- The behaviour of a handler, step by step. After an advance it goes on with the outcome, a
caught panic included; passing a panic on is `finish`. -/
inductive Program where
  | finish (outcome : Outcome)
  | read (next : Scope → Program)
  | write (scope : Scope) (next : Program)
  | gauge (meter : String) (next : Meter → Program)
  | inspect (next : ChainView → Program)
  | complete (next : Program)
  | advance (next : Outcome → Program)

/-- What an endpoint does: it answers from what it sees and never meets the chain. -/
abbrev Service := Scope → Gauges → Outcome × Scope

inductive Handler where
  | recovery (exposeDetails : Bool)
  | tracing
  | requestId
  | metrics (meter : String)
  | endpoint (name : String) (serve : Service)
  /-- A behaviour of its own; without a name it is shown as a function. -/
  | custom (name : Option String) (behaviour : Program)

namespace Handler

def name : Handler → String
  | .recovery _ => "recovery"
  | .tracing => "tracing"
  | .requestId => "request_id"
  | .metrics _ => "metrics"
  | .endpoint name _ => name
  | .custom name _ => name.getD "<fn>"

end Handler

end RequestRouting

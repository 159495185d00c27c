import RequestRouting.Json.Basic

/-!
# Meters

The counters of metrics middleware: requests, errors by kind, and requests for each pattern in
the order of the patterns.
-/

set_option autoImplicit false

namespace RequestRouting

structure Meter where
  requests : Nat := 0
  clientErrors : Nat := 0
  serverErrors : Nat := 0
  paths : List (String × Nat) := []
  deriving DecidableEq

namespace Meter

def pathCount (m : Meter) (pattern : String) : Nat := (m.paths.lookup pattern).getD 0

def enter (m : Meter) (pattern : String) : Meter :=
  { m with
    requests := m.requests + 1
    paths := Json.putField pattern (m.pathCount pattern + 1) m.paths }

/-- Counts an answer with the status: errors of the client are 4xx, of the server 5xx. -/
def answer (m : Meter) (status : Nat) : Meter :=
  if 400 ≤ status ∧ status ≤ 499 then { m with clientErrors := m.clientErrors + 1 }
  else if 500 ≤ status ∧ status ≤ 599 then { m with serverErrors := m.serverErrors + 1 }
  else m

def list (paths : List (String × Nat)) (pattern : String) : List (String × Nat) :=
  Json.putField pattern ((paths.lookup pattern).getD 0) paths

def register (m : Meter) (patterns : List String) : Meter :=
  { m with paths := patterns.foldl list m.paths }

end Meter

/-- Meters by name. A meter that is not there yet is at zero. -/
abbrev Meters := List (String × Meter)

namespace Meters

def get (meters : Meters) (name : String) : Meter := (meters.lookup name).getD {}

def update (meters : Meters) (name : String) (f : Meter → Meter) : Meters :=
  Json.putField name (f (get meters name)) meters

end Meters

end RequestRouting

import RequestRouting.Middleware.Metrics
import RequestRouting.Middleware.Recovery
import RequestRouting.Middleware.RequestId
import RequestRouting.Middleware.Tracing

/-!
# Handler chains

`advance` runs the next handler of a chain; a handler advances in turn to run those behind it.
Each handler is entered at most once, since the cursor only moves forward. A cancelled request
enters no further handler, and a completed chain none at all.
-/

set_option autoImplicit false

namespace RequestRouting

def Program.run (length : Nat) (advance : Step) : Program → Step
  | .finish outcome, e => (outcome, e)
  | .read next, e => (next e.scope).run length advance e
  | .write scope next, e => next.run length advance { e with scope := scope }
  | .gauge meter next, e => (next (e.gauges meter)).run length advance e
  | .inspect next, e => (next (e.view length)).run length advance e
  | .complete next, e => next.run length advance e.complete
  | .advance next, e =>
    let (outcome, after) := advance e
    (next outcome).run length advance after

def Handler.run (length : Nat) (advance : Step) : Handler → Step
  | .recovery exposeDetails => Recovery.run exposeDetails advance
  | .tracing => Tracing.run advance
  | .requestId => RequestIdHeader.run advance
  | .metrics meter => Metrics.run meter advance
  | .endpoint _ serve => fun e =>
    let (outcome, scope) := serve e.scope e.gauges
    (outcome, { e with scope := scope })
  | .custom _ behaviour => behaviour.run length advance

namespace Chain

def timedOut : Response := .error 503 "Request timed out"

def ignore (e : Execution) : Execution :=
  e.log (.entry .trace "Advance after completion ignored"
    [e.idField, ("position", .number e.cursor)])

def skip (length : Nat) (e : Execution) : Execution :=
  ((e.log (.entry .warn "Request cancelled - skipping remaining handlers"
    [e.idField, ("pattern", .text e.context.pattern),
      ("skipped_handlers", .number (length - e.cursor))])).complete).respond timedOut

def enter (h : Handler) (e : Execution) : Execution :=
  { e with cursor := e.cursor + 1, state := .running }.log
    (.entry .trace "Invoking handler"
      [e.idField, ("position", .number e.cursor), ("handler", .text h.name)])

/-- The handler at `index` is left. An error completes the chain, and so does a handler that has
not advanced; a panic leaves the chain as it stands. -/
def leave (index : Nat) (outcome : Outcome) (e : Execution) : Execution :=
  match outcome with
  | .ok => if e.cursor = index + 1 then e.complete else e
  | .failed _ => e.complete
  | .panicked _ => e

/-- Advances a chain of the given length of which `handlers` is the part from `index` on. Those
behind the cursor were entered before and are passed over. -/
def advanceFrom (length : Nat) : List Handler → Nat → Step
  | [], _, e => (.ok, if e.state = .completed then ignore e else e.complete)
  | h :: rest, index, e =>
    if e.state = .completed then (.ok, ignore e)
    else if index < e.cursor then advanceFrom length rest (index + 1) e
    else if e.context.isCancelled then (.ok, skip length e)
    else
      let (outcome, after) :=
        h.run length (fun e => advanceFrom length rest (index + 1) e) (enter h e)
      (outcome, leave index outcome after)

def advance (handlers : List Handler) : Step := advanceFrom handlers.length handlers 0

end Chain

end RequestRouting

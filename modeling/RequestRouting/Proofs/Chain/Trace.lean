import RequestRouting.Chain

/-!
# Traces of chains

What happens to the handlers of a chain while it is advanced: which are entered and left, and when
they advance the chain in turn. A trace is read off a run and does not take part in it; the journal
of the run reports the same entries.
-/

set_option autoImplicit false

namespace RequestRouting

/-- Whether a call came back, with or without an error. -/
def Outcome.returned : Outcome → Bool
  | .panicked _ => false
  | _ => true

inductive ChainEvent where
  | entered (index : Nat)
  | called (index : Nat)
  /-- The handler goes on, or is unwound, after its advance. -/
  | resumed (index : Nat) (outcome : Outcome) (state : ChainState)
  | left (index : Nat) (outcome : Outcome)
  deriving DecidableEq

namespace ChainEvent

def index : ChainEvent → Nat
  | .entered i => i
  | .called i => i
  | .resumed i _ _ => i
  | .left i _ => i

def enteredAt? : ChainEvent → Option Nat
  | .entered i => some i
  | _ => none

def leftAt? : ChainEvent → Option Nat
  | .left i _ => some i
  | _ => none

def isResumed (index : Nat) : ChainEvent → Bool
  | .resumed i _ _ => i == index
  | _ => false

def entries (trace : List ChainEvent) : List Nat := trace.filterMap enteredAt?

def exits (trace : List ChainEvent) : List Nat := trace.filterMap leftAt?

@[simp] theorem entries_nil : entries [] = [] := rfl

@[simp] theorem entries_cons (e : ChainEvent) (trace : List ChainEvent) :
    entries (e :: trace) = e.enteredAt?.toList ++ entries trace := by
  cases e <;> rfl

@[simp] theorem entries_append (first second : List ChainEvent) :
    entries (first ++ second) = entries first ++ entries second := List.filterMap_append

@[simp] theorem exits_nil : exits [] = [] := rfl

@[simp] theorem exits_cons (e : ChainEvent) (trace : List ChainEvent) :
    exits (e :: trace) = e.leftAt?.toList ++ exits trace := by
  cases e <;> rfl

@[simp] theorem exits_append (first second : List ChainEvent) :
    exits (first ++ second) = exits first ++ exits second := List.filterMap_append

end ChainEvent

/-- The executions at which a behaviour advances the chain, in order. -/
def Program.calls (length : Nat) (advance : Step) : Program → Execution → List Execution
  | .finish _, _ => []
  | .read next, e => (next e.scope).calls length advance e
  | .write scope next, e => next.calls length advance { e with scope := scope }
  | .gauge meter next, e => (next (e.gauges meter)).calls length advance e
  | .inspect next, e => (next (e.view length)).calls length advance e
  | .complete next, e => next.calls length advance e.complete
  | .advance next, e => e :: (next (advance e).1).calls length advance (advance e).2

def Handler.calls (length : Nat) (advance : Step) : Handler → Execution → List Execution
  | .recovery _, e => [e]
  | .tracing, e => [e.log (Tracing.opening e)]
  | .requestId, e => [RequestIdHeader.adopt e]
  | .metrics meter, e => [e.updateMeter meter fun m => m.enter e.context.pattern]
  | .endpoint _ _, _ => []
  | .custom _ behaviour, e => behaviour.calls length advance e

namespace Chain

def traceFrom (length : Nat) : List Handler → Nat → Execution → List ChainEvent
  | [], _, _ => []
  | h :: rest, index, e =>
    if e.state = .completed then []
    else if index < e.cursor then traceFrom length rest (index + 1) e
    else if e.context.isCancelled then []
    else
      let advance : Step := fun e => advanceFrom length rest (index + 1) e
      .entered index :: ((h.calls length advance (enter h e)).flatMap fun call =>
          .called index :: traceFrom length rest (index + 1) call ++
            [.resumed index (advance call).1 (advance call).2.state]) ++
        [.left index (h.run length advance (enter h e)).1]

def trace (handlers : List Handler) (e : Execution) : List ChainEvent :=
  traceFrom handlers.length handlers 0 e

theorem advanceFrom_of_completed {length index : Nat} {handlers : List Handler} {e : Execution}
    (h : e.state = .completed) : advanceFrom length handlers index e = (.ok, ignore e) := by
  cases handlers <;> simp [advanceFrom, h]

theorem traceFrom_of_completed {length index : Nat} {handlers : List Handler} {e : Execution}
    (h : e.state = .completed) : traceFrom length handlers index e = [] := by
  cases handlers <;> simp [traceFrom, h]

end Chain

end RequestRouting

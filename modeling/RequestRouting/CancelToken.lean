/-!
# Cancellation

A signal is shared by a token and all its clones: it is raised once and for all by `cancel`, or
by a deadline that has passed. A deadline has either passed when it is set or is never reached.
`TokenPool` holds the signals of any number of tokens.
-/

set_option autoImplicit false

namespace RequestRouting

inductive Deadline where
  | none
  | passed
  | ahead
  deriving DecidableEq

structure CancelSignal where
  cancelled : Bool := false
  deadline : Deadline := .none
  deriving DecidableEq

namespace CancelSignal

def withTimeout (ms : Nat) : CancelSignal :=
  { deadline := if ms = 0 then .passed else .ahead }

def cancel (s : CancelSignal) : CancelSignal := { s with cancelled := true }

def isCancelled (s : CancelSignal) : Bool := s.cancelled || s.deadline == .passed

/-- The signal after it was asked: a deadline that has passed counts as a cancellation. -/
def latch (s : CancelSignal) : CancelSignal := { s with cancelled := s.isCancelled }

def hasDeadline (s : CancelSignal) : Bool := s.deadline != .none

end CancelSignal

/-- Tokens by number, each with the number of its signal. -/
structure TokenPool where
  signals : List CancelSignal := []
  tokens : List Nat := []

namespace TokenPool

def new (p : TokenPool) (signal : CancelSignal) : Nat × TokenPool :=
  (p.tokens.length, ⟨p.signals ++ [signal], p.tokens ++ [p.signals.length]⟩)

def clone (p : TokenPool) (i : Nat) : Nat × TokenPool :=
  (p.tokens.length, { p with tokens := p.tokens ++ [p.tokens.getD i 0] })

def signal (p : TokenPool) (i : Nat) : CancelSignal :=
  p.signals.getD (p.tokens.getD i 0) {}

def cancel (p : TokenPool) (i : Nat) : TokenPool :=
  { p with signals := p.signals.modify (p.tokens.getD i 0) CancelSignal.cancel }

def isCancelled (p : TokenPool) (i : Nat) : Bool × TokenPool :=
  ((p.signal i).isCancelled,
    { p with signals := p.signals.modify (p.tokens.getD i 0) CancelSignal.latch })

def hasDeadline (p : TokenPool) (i : Nat) : Bool := (p.signal i).hasDeadline

end TokenPool

end RequestRouting

/-!
# Log events

What the library reports while it works: events with a level, a message and fields, and spans
that are opened and get further values later.
-/

set_option autoImplicit false

namespace RequestRouting

inductive LogLevel where
  | trace
  | debug
  | info
  | warn
  | error
  deriving DecidableEq

def LogLevel.name : LogLevel → String
  | .trace => "TRACE"
  | .debug => "DEBUG"
  | .info => "INFO"
  | .warn => "WARN"
  | .error => "ERROR"

inductive FieldValue where
  | text (value : String)
  | number (value : Nat)
  deriving DecidableEq

inductive Event where
  | entry (level : LogLevel) (message : String) (fields : List (String × FieldValue))
  | opened (span : String) (fields : List (String × FieldValue))
  | recorded (span : String) (fields : List (String × FieldValue))
  deriving DecidableEq

end RequestRouting

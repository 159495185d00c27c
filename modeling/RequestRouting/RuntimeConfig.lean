import RequestRouting.Event
import RequestRouting.Text.Ascii
import RequestRouting.Text.Blank
import RequestRouting.Text.Decimal

/-!
# Runtime configuration

The settings of a dispatcher, and the environment variables that overlay them. A variable whose
value cannot be read leaves its setting as it is.
-/

set_option autoImplicit false

namespace RequestRouting

abbrev Environment := String → Option String

def readBool (s : String) : Option Bool :=
  let word := Text.lower (Text.trim s)
  if ["1", "true", "yes", "on"].contains word then some true
  else if ["0", "false", "no", "off"].contains word then some false
  else none

/-- The time a request may take is given in milliseconds, the threshold in microseconds. -/
structure RuntimeConfig where
  requestTimeout : Option Nat := none
  slowMatchThreshold : Nat := 1000
  headFallback : Bool := true
  logRoutes : Bool := false
  deriving DecidableEq

namespace RuntimeConfig

def timeoutVariable : String := "BRRTR_REQUEST_TIMEOUT_MS"
def thresholdVariable : String := "BRRTR_SLOW_MATCH_THRESHOLD_US"
def headFallbackVariable : String := "BRRTR_HEAD_FALLBACK"
def logRoutesVariable : String := "BRRTR_LOG_ROUTES"

def readNumber (s : String) : Option Nat := Text.readUnsigned (Text.trim s)

/-- A time limit; zero stands for none. -/
def readTimeout (s : String) : Option (Option Nat) :=
  (readNumber s).map fun n => if n = 0 then none else some n

/-- The value of a variable, or the current one if there is none that can be read. -/
def pick {α : Type} (env : Environment) (name : String) (read : String → Option α)
    (current : α) : α :=
  ((env name).bind read).getD current

def overlay (env : Environment) (c : RuntimeConfig) : RuntimeConfig where
  requestTimeout := pick env timeoutVariable readTimeout c.requestTimeout
  slowMatchThreshold := pick env thresholdVariable readNumber c.slowMatchThreshold
  headFallback := pick env headFallbackVariable readBool c.headFallback
  logRoutes := pick env logRoutesVariable readBool c.logRoutes

def complaint {α : Type} (env : Environment) (name : String) (read : String → Option α) :
    List Event :=
  match env name with
  | none => []
  | some value =>
    if (read value).isSome then []
    else [.entry .warn ("Ignoring invalid " ++ name) [("value", .text value)]]

def overlayEvents (env : Environment) : List Event :=
  complaint env timeoutVariable readTimeout ++ complaint env thresholdVariable readNumber ++
    complaint env headFallbackVariable readBool ++ complaint env logRoutesVariable readBool

def ofEnvironment (env : Environment) : RuntimeConfig := overlay env {}

end RuntimeConfig

end RequestRouting

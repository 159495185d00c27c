import RequestRouting.Event
import RequestRouting.LogFilter
import RequestRouting.RuntimeConfig

/-!
# Logging configuration

How a program writes its log, taken from environment variables.
-/

set_option autoImplicit false

namespace RequestRouting

inductive LogFormat where
  | json
  | pretty
  deriving DecidableEq

def LogFormat.read (s : String) : LogFormat := if Text.lower s = "pretty" then .pretty else .json

/-- The level is kept as it is written. `inBackground` tells whether the log is written by another
thread, and `showLocation` whether events tell where they come from. -/
structure LogConfig where
  level : String := "info"
  format : LogFormat := .json
  inBackground : Bool := true
  targetFilter : Option String := none
  showLocation : Bool := false
  deriving DecidableEq

namespace LogConfig

def production : LogConfig := {}

def development : LogConfig :=
  { level := "debug", format := .pretty, inBackground := false, showLocation := true }

def switch (env : Environment) (name : String) (default : Bool) : Bool :=
  ((env name).bind readBool).getD default

def ofEnvironment (env : Environment) : LogConfig where
  level := (env "BRRTR_LOG_LEVEL").getD production.level
  format := ((env "BRRTR_LOG_FORMAT").map LogFormat.read).getD production.format
  inBackground := switch env "BRRTR_LOG_ASYNC" production.inBackground
  targetFilter := (env "BRRTR_LOG_TARGET_FILTER").filter fun s => !(Text.trim s).isEmpty
  showLocation := switch env "BRRTR_LOG_INCLUDE_LOCATION" production.showLocation

def logLevel (c : LogConfig) : LogLevel :=
  match Text.lower c.level with
  | "trace" => .trace
  | "debug" => .debug
  | "warn" => .warn
  | "error" => .error
  | _ => .info

def passing : LogLevel → FilterLevel
  | .trace => .trace
  | .debug => .debug
  | .info => .info
  | .warn => .warn
  | .error => .error

def filterVariable : String := "RUST_LOG"

/-- The filter of a configuration: that of the environment or the level, and the target filter. -/
def filter (c : LogConfig) (env : Environment) : LogFilter :=
  let base := ((env filterVariable).bind LogFilter.read?).getD (.ofLevel (passing c.logLevel))
  match c.targetFilter with
  | none => base
  | some directives => base.extend directives

end LogConfig

end RequestRouting

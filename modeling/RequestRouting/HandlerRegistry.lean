import RequestRouting.Echo
import RequestRouting.Json.Basic
import RequestRouting.Text.Quoted

/-!
# Handler registries

Handlers by name, and a fallback for the names that are not registered.
-/

set_option autoImplicit false

namespace RequestRouting

structure HandlerRegistry where
  handlers : List (String × Handler) := []
  fallback : Option Handler := none

namespace HandlerRegistry

def register (r : HandlerRegistry) (name : String) (h : Handler) : HandlerRegistry :=
  { r with handlers := Json.putField name h r.handlers }

def builtin : HandlerRegistry :=
  let recovering := ({} : HandlerRegistry).register "recovery" (.recovery false)
  (recovering.register "tracing" .tracing).register "request_id" .requestId

def setFallback (r : HandlerRegistry) (h : Handler) : HandlerRegistry :=
  { r with fallback := some h }

def get? (r : HandlerRegistry) (name : String) : Option Handler :=
  match r.handlers.lookup name with
  | some h => some h
  | none => r.fallback

def contains (r : HandlerRegistry) (name : String) : Bool := (r.handlers.lookup name).isSome

def debug (r : HandlerRegistry) : String :=
  "HandlerRegistry \x7b handlers: [" ++
    Text.joinWith ", " (r.handlers.map fun h => Text.quoted h.1) ++ "], fallback: " ++
    (if r.fallback.isSome then "true" else "false") ++ " \x7d"

end HandlerRegistry

end RequestRouting

import RequestRouting.Router.Events

/-!
# Route groups

A group puts a common base in front of its patterns, and its middleware behind that of the router.
A nested group starts from the base and the middleware that its parent has at that moment.
-/

set_option autoImplicit false

namespace RequestRouting

structure RouteGroup where
  base : String
  middleware : List Handler := []

namespace RouteGroup

/-- The base with the pattern behind it; neither a missing part nor `/` adds anything. -/
def join (base pattern : String) : String :=
  if base = "" then (if pattern = "/" ∨ pattern = "" then "/" else pattern)
  else if pattern = "/" ∨ pattern = "" then base
  else base ++ pattern

def ofBase (base : String) : RouteGroup := { base := Text.trimEnd '/' base }

def nested (g : RouteGroup) (base : String) : RouteGroup :=
  ⟨join g.base (Text.trimEnd '/' base), g.middleware⟩

def use (g : RouteGroup) (h : Handler) : RouteGroup := { g with middleware := g.middleware ++ [h] }

def register (g : RouteGroup) (r : Router) (method : Method) (pattern : String) (h : Handler) :
    Except PatternError Unit × Router :=
  if pattern.toList.head? = some '/' then
    r.registerWith method (join g.base pattern) g.middleware [h]
  else (.error ⟨pattern, .missingLeadingSlash⟩, r)

def registerEvents (g : RouteGroup) (r : Router) (method : Method) (pattern : String)
    (h : Handler) : List Event :=
  if pattern.toList.head? = some '/' then
    r.registerEvents method (join g.base pattern) g.middleware [h]
  else []

end RouteGroup

end RequestRouting

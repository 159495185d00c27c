import RequestRouting.Router.Events

/-!
# Shared routers

A published router that is exchanged as a whole. A configuration given once holds for every
router published later.
-/

set_option autoImplicit false

namespace RequestRouting

structure SharedRouter where
  current : Router := {}
  config : Option RuntimeConfig := none

namespace SharedRouter

def new (r : Router) : SharedRouter := ⟨r, none⟩

def withConfig (r : Router) (c : RuntimeConfig) : SharedRouter := ⟨r.configure c, some c⟩

def load (s : SharedRouter) : Router := s.current

def resolve (s : SharedRouter) (method : Method) (path : String) : RouteLookup :=
  s.current.resolve method path

def configure (s : SharedRouter) (c : RuntimeConfig) : SharedRouter :=
  ⟨s.current.configure c, some c⟩

/-- Changes a copy of the router and publishes it, unless the change fails. -/
def update {ε : Type} (s : SharedRouter) (change : Router → Except ε Unit × Router) :
    Except ε Unit × SharedRouter :=
  match change s.current with
  | (.ok (), r) => (.ok (), { s with current := r })
  | (.error e, _) => (.error e, s)

def register (s : SharedRouter) (method : Method) (pattern : String) (h : Handler) :
    Except PatternError Unit × SharedRouter :=
  s.update fun r => r.register method pattern h

/-- Publishes another router, with the settings of the configuration if there is one. -/
def replace (s : SharedRouter) (r : Router) : SharedRouter :=
  { s with current := match s.config with
    | some c => r.configure c
    | none => r }

def updatedEvent (r : Router) : Event :=
  .entry .info "Routing table updated" [("routes_count", .number r.entries.length)]

def replacedEvent (r : Router) : Event :=
  .entry .info "Routing table replaced" [("routes_count", .number r.entries.length)]

def registerEvents (s : SharedRouter) (method : Method) (pattern : String) (h : Handler) :
    List Event :=
  s.load.registerEvents method pattern [] [h] ++
    match s.register method pattern h with
    | (.ok (), next) => [updatedEvent next.load]
    | (.error _, _) => []

end SharedRouter

end RequestRouting

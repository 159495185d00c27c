import RequestRouting.Execution
import RequestRouting.PathTrie.Basic
import RequestRouting.RuntimeConfig
import RequestRouting.Text.Quoted

/-!
# Routers

A router keeps a trie of patterns for each method, and the list of all its routes in the order of
their first registration. Middleware goes in front of the handlers of routes registered later.
-/

set_option autoImplicit false

namespace RequestRouting

/-- A registered route. The serial number tells registrations of one pattern apart. -/
structure RouteEntry where
  serial : Nat
  method : Method
  pattern : String
  name : String
  chain : List Handler

structure RouteMatch where
  entry : RouteEntry
  params : Params

inductive RouteLookup where
  | found (route : RouteMatch)
  | methodNotAllowed (allowed : AllowedMethods)
  | notFound

structure Router where
  tries : List (Method × PathTrie RouteEntry) := []
  entries : List RouteEntry := []
  middleware : List Handler := []
  headFallback : Bool := true
  slowMatchThreshold : Nat := 1000
  nextSerial : Nat := 0

namespace Router

def routeName (handlers : List Handler) : String :=
  match handlers.getLast? with
  | some h => h.name
  | none => "<empty>"

def trie (r : Router) (method : Method) : PathTrie RouteEntry :=
  (r.tries.lookup method).getD .empty

def putTrie (method : Method) (t : PathTrie RouteEntry) :
    List (Method × PathTrie RouteEntry) → List (Method × PathTrie RouteEntry)
  | [] => [(method, t)]
  | (m, old) :: rest => if m = method then (m, t) :: rest else (m, old) :: putTrie method t rest

def configure (r : Router) (c : RuntimeConfig) : Router :=
  { r with headFallback := c.headFallback, slowMatchThreshold := c.slowMatchThreshold }

def withConfig (c : RuntimeConfig) : Router := ({} : Router).configure c

def use (r : Router) (h : Handler) : Router := { r with middleware := r.middleware ++ [h] }

def newEntry (r : Router) (method : Method) (pattern : String)
    (middleware handlers : List Handler) : RouteEntry :=
  ⟨r.nextSerial, method, pattern, routeName handlers, r.middleware ++ middleware ++ handlers⟩

/-- The list with the new entry: in the place of the one it replaces, or at the end. -/
def listEntry (entries : List RouteEntry) (replaced : Option RouteEntry) (entry : RouteEntry) :
    List RouteEntry :=
  match replaced with
  | none => entries ++ [entry]
  | some old => entries.map fun e => if e.serial = old.serial then entry else e

/-- Registers a route behind the router's middleware and the given one. A pattern that is refused
leaves the list of routes as it is. -/
def registerWith (r : Router) (method : Method) (pattern : String)
    (middleware handlers : List Handler) : Except PatternError Unit × Router :=
  let entry := r.newEntry method pattern middleware handlers
  match (r.trie method).insert pattern entry with
  | (.error e, t) => (.error e, { r with tries := putTrie method t r.tries })
  | (.ok replaced, t) =>
    (.ok (), { r with
      tries := putTrie method t r.tries
      entries := listEntry r.entries replaced entry
      nextSerial := r.nextSerial + 1 })

def register (r : Router) (method : Method) (pattern : String) (h : Handler) :
    Except PatternError Unit × Router :=
  r.registerWith method pattern [] [h]

def search (r : Router) (method : Method) (path : String) : Option RouteMatch :=
  ((r.trie method).search path).map fun m => ⟨m.value, m.params⟩

def otherMethods (r : Router) (method : Method) (path : String) : List Method :=
  (r.tries.filter fun (m, t) => m != method && (t.search path).isSome).map (·.1)

/-- Looks a route up. `HEAD` falls back on `GET` if that is set. -/
def resolve (r : Router) (method : Method) (path : String) : RouteLookup :=
  let fallback := if r.headFallback && method == .head then r.search .get path else none
  match r.search method path <|> fallback with
  | some route => .found route
  | none =>
    let allowed := r.otherMethods method path
    if allowed.isEmpty then .notFound
    else .methodNotAllowed (.ofMethods r.headFallback allowed)

def pathPatterns (r : Router) : List String :=
  r.entries.foldl (fun seen e => if seen.contains e.pattern then seen else seen ++ [e.pattern]) []

def debugEntry (e : RouteEntry) : String :=
  "RouteEntry \x7b method: " ++ e.method.token ++ ", pattern: " ++ Text.quoted e.pattern ++
    ", name: " ++ Text.quoted e.name ++ ", chain_len: " ++ toString e.chain.length ++ " \x7d"

def debug (r : Router) : String :=
  "Router \x7b routes: [" ++ Text.joinWith ", " (r.entries.map debugEntry) ++ "], middleware: " ++
    toString r.middleware.length ++ ", head_fallback: " ++
    (if r.headFallback then "true" else "false") ++ ", slow_match_threshold: " ++
    Text.duration r.slowMatchThreshold ++ " \x7d"

end Router

end RequestRouting

import RequestRouting.HandlerRegistry
import RequestRouting.Router.Events

/-!
# Route tables

Routes given as data: rows of a method, a path and the names of handlers, resolved in a registry
when a router is built. A table is worked off row by row; the first row that cannot be registered
ends it, and the rows before it stay.
-/

set_option autoImplicit false

namespace RequestRouting

structure RouteSpec where
  method : String
  path : String
  handler : String
  middleware : List String := []
  deriving DecidableEq

structure RouteTable where
  middleware : List String := []
  routes : List RouteSpec := []
  deriving DecidableEq

inductive RowFault where
  | method (error : Method.Invalid)
  | unknownHandler (name : String)
  | pattern (error : PatternError)
  deriving DecidableEq

inductive TableError where
  | middleware (name : String)
  | row (index : Nat) (method path : String) (fault : RowFault)
  deriving DecidableEq

def unknownHandlerMessage (name : String) : String := "unknown handler '" ++ name ++ "'"

def RowFault.message : RowFault → String
  | .method e => e.message
  | .unknownHandler name => unknownHandlerMessage name
  | .pattern e => e.message

def TableError.message : TableError → String
  | .middleware name => "failed to resolve global middleware: " ++ unknownHandlerMessage name
  | .row index method path fault =>
    "route #" ++ toString index ++ " (" ++ method ++ " " ++ path ++ "): " ++ fault.message

namespace RouteTable

/-- The names in the table, each once: the global middleware, then the middleware and the handler
of each row. -/
def referencedNames (t : RouteTable) : List String :=
  let all := t.middleware ++ t.routes.flatMap fun s => s.middleware ++ [s.handler]
  all.foldl (fun seen n => if seen.contains n then seen else seen ++ [n]) []

def resolveNames (registry : HandlerRegistry) : List String → Except String (List Handler)
  | [] => .ok []
  | n :: rest =>
    match registry.get? n with
    | none => .error n
    | some h => (resolveNames registry rest).map (h :: ·)

structure ResolvedRow where
  method : Method
  path : String
  middleware : List Handler
  handler : Handler

/-- Reads the method, then resolves the middleware, then the handler. -/
def resolveRow (registry : HandlerRegistry) (s : RouteSpec) : Except RowFault ResolvedRow :=
  match Method.read s.method with
  | .error e => .error (.method e)
  | .ok method =>
    match resolveNames registry s.middleware with
    | .error name => .error (.unknownHandler name)
    | .ok middleware =>
      match registry.get? s.handler with
      | none => .error (.unknownHandler s.handler)
      | some handler => .ok ⟨method, s.path, middleware, handler⟩

end RouteTable

namespace Router

def registerRow (r : Router) (registry : HandlerRegistry) (s : RouteSpec) :
    Except RowFault Unit × Router :=
  match RouteTable.resolveRow registry s with
  | .error fault => (.error fault, r)
  | .ok row =>
    match r.registerWith row.method row.path row.middleware [row.handler] with
    | (.error e, r) => (.error (.pattern e), r)
    | (.ok (), r) => (.ok (), r)

def useNames (registry : HandlerRegistry) :
    List String → Router → Except TableError Unit × Router
  | [], r => (.ok (), r)
  | n :: rest, r =>
    match registry.get? n with
    | none => (.error (.middleware n), r)
    | some h => useNames registry rest (r.use h)

/-- Registers the rows, the first of which has the given index, up to the first that fails. -/
def registerRows (registry : HandlerRegistry) (index : Nat) :
    List RouteSpec → Router → Except TableError Unit × Router
  | [], r => (.ok (), r)
  | s :: rest, r =>
    match r.registerRow registry s with
    | (.error fault, r) => (.error (.row index s.method s.path fault), r)
    | (.ok (), r) => registerRows registry (index + 1) rest r

def extend (r : Router) (t : RouteTable) (registry : HandlerRegistry) :
    Except TableError Unit × Router :=
  match useNames registry t.middleware r with
  | (.error e, r) => (.error e, r)
  | (.ok (), r) => registerRows registry 0 t.routes r

def ofTable (t : RouteTable) (registry : HandlerRegistry) : Except TableError Router :=
  match ({} : Router).extend t registry with
  | (.error e, _) => .error e
  | (.ok (), r) => .ok r

def rowEvents (r : Router) (registry : HandlerRegistry) (s : RouteSpec) : List Event :=
  match RouteTable.resolveRow registry s with
  | .error _ => []
  | .ok row => r.registerEvents row.method row.path row.middleware [row.handler]

def useNamesEvents (registry : HandlerRegistry) : List String → Router → List Event
  | [], _ => []
  | n :: rest, r =>
    match registry.get? n with
    | none => []
    | some h => r.useEvents h ++ useNamesEvents registry rest (r.use h)

def rowsEvents (registry : HandlerRegistry) : List RouteSpec → Router → List Event
  | [], _ => []
  | s :: rest, r =>
    r.rowEvents registry s ++
      match r.registerRow registry s with
      | (.error _, _) => []
      | (.ok (), r) => rowsEvents registry rest r

def extendEvents (r : Router) (t : RouteTable) (registry : HandlerRegistry) : List Event :=
  useNamesEvents registry t.middleware r ++
    match useNames registry t.middleware r with
    | (.error _, _) => []
    | (.ok (), r) => rowsEvents registry t.routes r

end Router

end RequestRouting

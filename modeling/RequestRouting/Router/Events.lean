import RequestRouting.Router

/-!
# What a router reports

The events of installing middleware, of registrations, of lookups and of listing the routes.
-/

set_option autoImplicit false

namespace RequestRouting.Router

def useEvents (r : Router) (h : Handler) : List Event :=
  if r.entries.isEmpty then []
  else [.entry .warn "Middleware installed after routes - existing routes keep their chains"
    [("middleware", .text h.name), ("routes_count", .number r.entries.length)]]

/-- A registration is new or replaces an earlier one; one that is refused is not reported. -/
def registerEvents (r : Router) (method : Method) (pattern : String)
    (middleware handlers : List Handler) : List Event :=
  let entry := r.newEntry method pattern middleware handlers
  match (r.trie method).insert pattern entry with
  | (.error _, _) => []
  | (.ok (some previous), _) =>
    [.entry .warn "Route re-registered - replacing previous handler chain"
      [("method", .text method.token), ("route_pattern", .text pattern),
        ("previous_handler", .text previous.name), ("handler_name", .text entry.name)]]
  | (.ok none, _) =>
    [.entry .debug "Route registered"
      [("method", .text method.token), ("route_pattern", .text pattern),
        ("handler_name", .text entry.name), ("chain_len", .number entry.chain.length)]]

def resolveEvents (r : Router) (method : Method) (path : String) : List Event :=
  let asked : List (String × FieldValue) := [("method", .text method.token), ("path", .text path)]
  let found : Event := match r.resolve method path with
    | .found route => .entry .debug "Route matched"
      (asked ++ [("handler_name", .text route.entry.name),
        ("route_pattern", .text route.entry.pattern)])
    | .methodNotAllowed allowed => .entry .debug "Path matched under other methods"
      (asked ++ [("allowed", .text allowed.header)])
    | .notFound => .entry .debug "No route matched" asked
  [.entry .debug "Route match attempt" asked, found]

def dumpEvents (r : Router) : List Event :=
  .entry .info "Routing table" [("routes_count", .number r.entries.length),
      ("middleware_count", .number r.middleware.length)] ::
    r.entries.map fun e => .entry .info "Route"
      [("method", .text e.method.token), ("route_pattern", .text e.pattern),
        ("handler_name", .text e.name), ("chain_len", .number e.chain.length)]

end RequestRouting.Router

import RequestRouting.Document.Reader
import RequestRouting.RouteTable

/-!
# Route tables in documents

A table is a record of middleware and rows, a row a record of a method, a path, a handler and
middleware. Only the two kinds of middleware and the list of rows may be missing.
-/

set_option autoImplicit false

namespace RequestRouting

namespace RouteSpec

def fields : List (String × Document.Shape) :=
  [("method", .single), ("path", .single), ("handler", .single), ("middleware", .list .single)]

def ofDocument {ν : Type} (r : Document.Reader ν) (v : ν) : Option RouteSpec := do
  let field ← r.record? fields v
  let method ← (field "method").bind r.text?
  let path ← (field "path").bind r.text?
  let handler ← (field "handler").bind r.text?
  let middleware ← Document.optional [] (r.list? r.text?) (field "middleware")
  return { method, path, handler, middleware }

end RouteSpec

namespace RouteTable

def fields : List (String × Document.Shape) :=
  [("middleware", .list .single), ("routes", .list (.record RouteSpec.fields))]

def ofDocument {ν : Type} (r : Document.Reader ν) (v : ν) : Option RouteTable := do
  let field ← r.record? fields v
  let middleware ← Document.optional [] (r.list? r.text?) (field "middleware")
  let routes ← Document.optional [] (r.list? (RouteSpec.ofDocument r)) (field "routes")
  return { middleware, routes }

def schema : Document.Schema RouteTable := ⟨.record fields, ofDocument⟩

def rowJson (s : RouteSpec) : Json :=
  Json.ofFields ([("method", .string s.method), ("path", .string s.path),
      ("handler", .string s.handler)] ++
    if s.middleware.isEmpty then [] else [("middleware", Json.ofStrings s.middleware)])

def toJson (t : RouteTable) : Json :=
  Json.ofFields ([("routes", .array (t.routes.map rowJson))] ++
    if t.middleware.isEmpty then [] else [("middleware", Json.ofStrings t.middleware)])

end RouteTable

end RequestRouting

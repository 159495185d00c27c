import RequestRouting.Document.File
import RequestRouting.RouteTable.Reading

/-!
# Route table files
-/

set_option autoImplicit false

namespace RequestRouting.RouteTable

open Document (FileSystem LoadError)

def loadMessage (file : String) : LoadError → String
  | .unreadable fault => "failed to read route table " ++ file ++ ": " ++ fault.mark
  | .malformed format =>
    "invalid " ++ format.name ++ " route table " ++ file ++ ": " ++ format.mark
  | .unsupported extension =>
    "unsupported route table format '" ++ extension ++ "' for " ++ file ++
      " (expected yaml, yml, toml or json)"

def ofFile (files : FileSystem) (file : String) : Except LoadError RouteTable :=
  Document.load files schema file

def loadEvents (file : String) (t : RouteTable) : List Event :=
  [.entry .info "Route table loaded"
    [("path", .text file), ("routes_count", .number t.routes.length),
      ("middleware_count", .number t.middleware.length)]]

end RequestRouting.RouteTable

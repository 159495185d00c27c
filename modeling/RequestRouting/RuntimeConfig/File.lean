import RequestRouting.Document.File
import RequestRouting.RuntimeConfig.Reading

/-!
# Configuration files
-/

set_option autoImplicit false

namespace RequestRouting.RuntimeConfig

open Document (FileSystem LoadError)

def loadMessage (file : String) : LoadError → String
  | .unreadable fault => "failed to read runtime config " ++ file ++ ": " ++ fault.mark
  | .malformed format => "invalid " ++ format.name ++ " in " ++ file ++ ": " ++ format.mark
  | .unsupported extension =>
    "unsupported runtime config format '" ++ extension ++ "' for " ++ file ++
      " (expected yaml, yml, toml or json)"

def ofFile (files : FileSystem) (file : String) : Except LoadError RuntimeConfig :=
  Document.load files schema file

def load (files : FileSystem) (env : Environment) (file : String) :
    Except LoadError RuntimeConfig :=
  (ofFile files file).map (overlay env)

end RequestRouting.RuntimeConfig

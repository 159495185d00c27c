import RequestRouting.Document.Reader
import RequestRouting.Toml.Document

/-!
# Records in TOML
-/

set_option autoImplicit false

namespace RequestRouting.Toml

def fields? : Value → Option (List (String × Value))
  | .table _ fields => some fields
  | _ => none

def items? : Value → Option (List Value)
  | .array _ items => some items
  | _ => none

def string? : Value → Option String
  | .text s => some s
  | _ => none

def natural? : Value → Option Nat
  | .integer (.ofNat n) => if n < UInt64.size then some n else none
  | _ => none

def boolean? : Value → Option Bool
  | .boolean b => some b
  | _ => none

def reader : Document.Reader Value where
  fields? := fields?
  items? := items?
  text? := string?
  natural? := natural?
  boolean? := boolean?
  isNull? := fun _ => some false
  recordLists := .extended

end RequestRouting.Toml

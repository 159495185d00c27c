import RequestRouting.Document.Reader
import RequestRouting.Json.Basic

/-!
# Records in JSON
-/

set_option autoImplicit false

namespace RequestRouting.Json

def items? : Json → Option (List Json)
  | .array items => some items
  | _ => none

def fields? : Json → Option (List (String × Json))
  | .object fields => some fields
  | _ => none

def text? : Json → Option String
  | .string s => some s
  | _ => none

def natural? : Json → Option Nat
  | .int (.ofNat n) => if n < UInt64.size then some n else none
  | _ => none

def boolean? : Json → Option Bool
  | .bool b => some b
  | _ => none

def isNull : Json → Bool
  | .null => true
  | _ => false

def reader : Document.Reader Json where
  fields? := fields?
  items? := items?
  text? := text?
  natural? := natural?
  boolean? := boolean?
  isNull? := fun v => some (isNull v)
  recordLists := .exact

end RequestRouting.Json

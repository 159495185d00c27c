import RequestRouting.Document.Reader
import RequestRouting.Json.Basic
import RequestRouting.RuntimeConfig

/-!
# Configurations in documents

A configuration is a record of four fields, all of which may be missing.
-/

set_option autoImplicit false

namespace RequestRouting.RuntimeConfig

def fields : List (String × Document.Shape) :=
  [("request_timeout_ms", .single), ("slow_match_threshold_us", .single),
    ("head_fallback", .single), ("log_routes", .single)]

/-- A time limit is a number or null; a zero is kept. -/
def readLimit {ν : Type} (r : Document.Reader ν) (v : ν) : Option (Option Nat) :=
  (r.isNull? v).bind fun isNull => if isNull then some none else (r.natural? v).map some

def ofDocument {ν : Type} (r : Document.Reader ν) (v : ν) : Option RuntimeConfig := do
  let field ← r.record? fields v
  let requestTimeout ← Document.optional none (readLimit r) (field "request_timeout_ms")
  let slowMatchThreshold ← Document.optional 1000 r.natural? (field "slow_match_threshold_us")
  let headFallback ← Document.optional true r.boolean? (field "head_fallback")
  let logRoutes ← Document.optional false r.boolean? (field "log_routes")
  return { requestTimeout, slowMatchThreshold, headFallback, logRoutes }

def schema : Document.Schema RuntimeConfig := ⟨.record fields, ofDocument⟩

def toJson (c : RuntimeConfig) : Json :=
  Json.ofFields [
    ("request_timeout_ms", (c.requestTimeout.map Json.ofNat).getD .null),
    ("slow_match_threshold_us", .ofNat c.slowMatchThreshold),
    ("head_fallback", .bool c.headFallback),
    ("log_routes", .bool c.logRoutes)]

end RequestRouting.RuntimeConfig

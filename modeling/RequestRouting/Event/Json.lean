import RequestRouting.Event
import RequestRouting.Json.Basic

/-!
# Events as JSON

An event is a list of its level or its kind, its message or its span, and its fields.
-/

set_option autoImplicit false

namespace RequestRouting

def FieldValue.toJson : FieldValue → Json
  | .text s => .string s
  | .number n => .ofNat n

namespace Event

def fieldsJson (fields : List (String × FieldValue)) : Json :=
  Json.ofFields (fields.map fun f => (f.1, f.2.toJson))

def toJson : Event → Json
  | .entry level message fields =>
    .array [.string level.name, .string message, fieldsJson fields]
  | .opened span fields => .array [.string "SPAN", .string span, fieldsJson fields]
  | .recorded span fields => .array [.string "RECORD", .string span, fieldsJson fields]

end Event

end RequestRouting

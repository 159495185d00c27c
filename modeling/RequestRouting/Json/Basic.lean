import RequestRouting.Binary64.Basic

/-!
# JSON values

The values of requests, responses and documents. `ofFields` and `canonical` bring the fields of
an object into the order of their names, a later field of one name replacing an earlier one.
-/

set_option autoImplicit false

namespace RequestRouting

/-- A JSON value. A number that is not written as an integer is a rounded one with a sign. -/
inductive Json where
  | null
  | bool (value : Bool)
  | int (value : Int)
  | real (negative : Bool) (magnitude : Binary64)
  | string (value : String)
  | array (items : List Json)
  | object (fields : List (String × Json))

namespace Json

instance : Inhabited Json := ⟨.null⟩

def putField {α : Type} (name : String) (value : α) : List (String × α) → List (String × α)
  | [] => [(name, value)]
  | (n, v) :: rest =>
    if name = n then (name, value) :: rest
    else if name < n then (name, value) :: (n, v) :: rest
    else (n, v) :: putField name value rest

def sortFields {α : Type} (fields : List (String × α)) : List (String × α) :=
  fields.foldl (fun sorted f => putField f.1 f.2 sorted) []

def ofFields (fields : List (String × Json)) : Json := .object (sortFields fields)

def ofTexts (fields : List (String × String)) : Json :=
  ofFields (fields.map fun f => (f.1, .string f.2))

def ofStrings (texts : List String) : Json := .array (texts.map .string)

def ofText? : Option String → Json
  | none => .null
  | some s => .string s

def ofNat (n : Nat) : Json := .int n

mutual

def canonical : Json → Json
  | .array items => .array (canonicalItems items)
  | .object fields => ofFields (canonicalFields fields)
  | .null => .null
  | .bool b => .bool b
  | .int n => .int n
  | .real b x => .real b x
  | .string s => .string s

def canonicalItems : List Json → List Json
  | [] => []
  | v :: rest => canonical v :: canonicalItems rest

def canonicalFields : List (String × Json) → List (String × Json)
  | [] => []
  | (n, v) :: rest => (n, canonical v) :: canonicalFields rest

end

def field? (name : String) : Json → Option Json
  | .object fields => fields.lookup name
  | _ => none

end Json

end RequestRouting

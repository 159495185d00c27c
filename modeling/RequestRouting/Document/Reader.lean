import RequestRouting.Document.Shape

/-!
# Reading records from documents

Documents of several formats hold the same records. A `Reader` tells how the values of one format
are taken as texts, numbers, lists and records; `record?` finds the fields of a record.
-/

set_option autoImplicit false

namespace RequestRouting.Document

/-- Whether a record may be given as a list of its fields in their order, and whether more items may
follow them. -/
inductive RecordLists where
  | refused
  | exact
  | extended
  deriving DecidableEq

structure Reader (ν : Type) where
  fields? : ν → Option (List (String × ν))
  items? : ν → Option (List ν)
  text? : ν → Option String
  natural? : ν → Option Nat
  boolean? : ν → Option Bool
  /-- Whether a value is left open; a value that only claims to be gives `none`. -/
  isNull? : ν → Option Bool
  recordLists : RecordLists

def noRepeats : List String → Bool
  | [] => true
  | n :: rest => !rest.contains n && noRepeats rest

namespace Reader

variable {ν : Type}

/-- The values of a record by the names of its fields. Other names are ignored, but a field must not
be repeated. -/
def record? (r : Reader ν) (fields : List (String × Shape)) (v : ν) : Option (String → Option ν) :=
  let names := fields.map (·.1)
  match r.fields? v with
  | some given =>
    let known := given.filter fun f => names.contains f.1
    if noRepeats (known.map (·.1)) then some fun n => known.lookup n else none
  | none =>
    match r.recordLists, r.items? v with
    | .exact, some items =>
      if items.length ≤ names.length then some fun n => (names.zip items).lookup n else none
    | .extended, some items => some fun n => (names.zip items).lookup n
    | _, _ => none

def list? {α : Type} (r : Reader ν) (read : ν → Option α) (v : ν) : Option (List α) :=
  (r.items? v).bind fun items => items.mapM read

end Reader

structure Schema (α : Type) where
  shape : Shape
  read : ∀ {ν : Type}, Reader ν → ν → Option α

def optional {ν α : Type} (default : α) (read : ν → Option α) : Option ν → Option α
  | none => some default
  | some v => read v

end RequestRouting.Document

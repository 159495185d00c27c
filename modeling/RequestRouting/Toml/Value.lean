/-!
# TOML values

A document is a table that grows statement by statement. Each table remembers how it came about,
which decides what may still be added to it.
-/

set_option autoImplicit false

namespace RequestRouting.Toml

/-- How a table came about: written in braces, by a header, as a part of a header, or as a part of a
dotted key. -/
inductive TableKind where
  | closed
  | header
  | implied
  | dotted
  deriving DecidableEq

/-- `other` is a number with a fraction or a date. An array is grown by headers or written in
brackets. -/
inductive Value where
  | text (s : String)
  | integer (n : Int)
  | boolean (b : Bool)
  | other
  | array (grown : Bool) (items : List Value)
  | table (kind : TableKind) (fields : List (String × Value))

abbrev Fields := List (String × Value)

namespace Fields

def set (name : String) (v : Value) (fields : Fields) : Fields :=
  fields.map fun f => if f.1 == name then (name, v) else f

def add? (name : String) (v : Value) (fields : Fields) : Option Fields :=
  if (fields.lookup name).isSome then none else some (fields ++ [(name, v)])

end Fields

abbrev Change := TableKind → Fields → Option (TableKind × Fields)

/-- Changes the table at a path. Tables that are missing are made; an array that headers grow stands
for its last table. A dotted key does not lead into a table that has a header, and makes those its
own that were only implied; nothing leads into a table in braces. -/
def within? (dotted : Bool) (change : Change) : List String → Change
  | [], kind, fields => change kind fields
  | name :: path, kind, fields =>
    match fields.lookup name with
    | none =>
      (within? dotted change path (if dotted then .dotted else .implied) []).map fun (k, fs) =>
        (kind, fields ++ [(name, .table k fs)])
    | some (.table inner innerFields) =>
      if inner = .closed ∨ (dotted = true ∧ inner = .header) then none
      else
        let inner := if dotted && inner == .implied then .dotted else inner
        (within? dotted change path inner innerFields).map fun (k, fs) =>
          (kind, fields.set name (.table k fs))
    | some (.array true items) =>
      match items.getLast? with
      | some (.table inner innerFields) =>
        (within? dotted change path inner innerFields).map fun (k, fs) =>
          (kind, fields.set name (.array true (items.dropLast ++ [.table k fs])))
      | _ => none
    | some _ => none

/-- Adds a field under a dotted key. Its table must belong to dotted keys if there is a dot, and
must not if there is none. -/
def insert? (path : List String) (name : String) (v : Value) : Change :=
  within? true (fun kind fields =>
    if (kind == .dotted) == path.isEmpty then none
    else (fields.add? name v).map fun fs => (kind, fs)) path

/-- Opens the table of a header, which is new or was only implied. -/
def openTable? (path : List String) (name : String) : Change :=
  within? false (fun kind fields =>
    match fields.lookup name with
    | none => some (kind, fields ++ [(name, .table .header [])])
    | some (.table .implied inner) => some (kind, fields.set name (.table .header inner))
    | some _ => none) path

def openItem? (path : List String) (name : String) : Change :=
  within? false (fun kind fields =>
    let item := Value.table .header []
    match fields.lookup name with
    | none => some (kind, fields ++ [(name, .array true [item])])
    | some (.array true items) => some (kind, fields.set name (.array true (items ++ [item])))
    | some _ => none) path

def atHeader? (change : Change) : List String → Change
  | [], kind, fields => change kind fields
  | name :: path, kind, fields =>
    match fields.lookup name with
    | some (.table inner innerFields) =>
      (atHeader? change path inner innerFields).map fun (k, fs) =>
        (kind, fields.set name (.table k fs))
    | some (.array true items) =>
      match items.getLast? with
      | some (.table inner innerFields) =>
        (atHeader? change path inner innerFields).map fun (k, fs) =>
          (kind, fields.set name (.array true (items.dropLast ++ [.table k fs])))
      | _ => none
    | _ => none

end RequestRouting.Toml

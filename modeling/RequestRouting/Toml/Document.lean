import RequestRouting.Toml.Scalar

/-!
# TOML documents

A document is a list of statements, one on a line: headers, which open tables, and fields, which are
added to the table opened last.
-/

set_option autoImplicit false

namespace RequestRouting.Toml

/-! ## Space -/

def skipBlanks (cs : List Char) : List Char := cs.dropWhile isBlank

def skipComment? : List Char → Option (List Char)
  | '#' :: rest =>
    let after := rest.dropWhile isPlain
    if after.isEmpty || (lineBreak? after).isSome then some after else none
  | cs => some cs

def skipSpace? : Nat → List Char → Option (List Char)
  | 0, _ => none
  | fuel + 1, cs =>
    match skipComment? (skipBlanks cs) with
    | none => none
    | some cs =>
      match lineBreak? cs with
      | some rest => skipSpace? fuel rest
      | none => some cs

def space? (cs : List Char) : Option (List Char) := skipSpace? (cs.length + 1) cs

/-! ## Keys -/

def isBareKey (c : Char) : Bool := c.isAlphanum || c == '_' || c == '-'

def keyPart? (cs : List Char) : Option (String × List Char) :=
  match cs with
  | c :: rest =>
    if c = '"' ∨ c = '\'' then
      (lineText? c (c == '"') (rest.length + 1) rest).map fun (t, rest) => (String.ofList t, rest)
    else
      let name := cs.takeWhile isBareKey
      if name.isEmpty then none else some (String.ofList name, cs.drop name.length)
  | [] => none

/-- The parts of a key between dots, with blanks around them, and the rest behind the blanks. -/
def keyParts? : Nat → List Char → Option (List String × List Char)
  | 0, _ => none
  | fuel + 1, cs =>
    match keyPart? (skipBlanks cs) with
    | none => none
    | some (name, rest) =>
      match skipBlanks rest with
      | '.' :: rest => (keyParts? fuel rest).map fun (names, rest) => (name :: names, rest)
      | rest => some ([name], rest)

def maxDepth : Nat := 80

def key? (cs : List Char) : Option (List String × List Char) :=
  (keyParts? (cs.length + 1) cs).filter fun (names, _) => names.length ≤ maxDepth

/-! ## Values -/

def fieldWith (value : List Char → Option (Value × List Char)) (cs : List Char) :
    Option (List String × Value × List Char) :=
  match key? cs with
  | some (names, '=' :: rest) => (value (skipBlanks rest)).map fun (v, rest) => (names, v, rest)
  | _ => none

def addField? (names : List String) (v : Value) (kind : TableKind) (fields : Fields) :
    Option (TableKind × Fields) :=
  names.getLast?.bind fun name => insert? names.dropLast name v kind fields

def itemsWith (value : List Char → Option (Value × List Char)) :
    Nat → List Char → Option (List Value × List Char)
  | 0, _ => none
  | fuel + 1, cs =>
    match space? cs with
    | none => none
    | some (']' :: rest) => some ([], rest)
    | some cs =>
      match value cs with
      | none => none
      | some (v, rest) =>
        match space? rest with
        | some (',' :: rest) => (itemsWith value fuel rest).map fun (vs, rest) => (v :: vs, rest)
        | some (']' :: rest) => some ([v], rest)
        | _ => none

def fieldsWith (value : List Char → Option (Value × List Char)) :
    Nat → Fields → List Char → Option (Fields × List Char)
  | 0, _, _ => none
  | fuel + 1, fields, cs =>
    match space? cs with
    | none => none
    | some ('\x7d' :: rest) => some (fields, rest)
    | some cs =>
      match fieldWith value cs with
      | none => none
      | some (names, v, rest) =>
        match addField? names v .closed fields, space? rest with
        | some (_, fields), some (',' :: rest) => fieldsWith value fuel fields rest
        | some (_, fields), some ('\x7d' :: rest) => some (fields, rest)
        | _, _ => none

def valueWithin? : Nat → List Char → Option (Value × List Char)
  | _, [] => none
  | 0, c :: rest =>
    if c = '"' ∨ c = '\'' then (text? c rest).map fun (t, rest) => (.text t, rest)
    else word? (c :: rest)
  | depth + 1, c :: rest =>
    if c = '[' then
      (itemsWith (valueWithin? depth) (rest.length + 1) rest).map fun (vs, rest) =>
        (.array false vs, rest)
    else if c = '\x7b' then
      (fieldsWith (valueWithin? depth) (rest.length + 1) [] rest).map fun (fs, rest) =>
        (.table .closed fs, rest)
    else if c = '"' ∨ c = '\'' then (text? c rest).map fun (t, rest) => (.text t, rest)
    else word? (c :: rest)

def value? (cs : List Char) : Option (Value × List Char) := valueWithin? maxDepth cs

/-! ## Statements -/

/-- A document up to some line: its fields, and the path of the last header. -/
structure Document where
  fields : Fields := []
  header : List String := []

namespace Document

def change? (d : Document) (change : Change) : Option Document :=
  (change .header d.fields).map fun (_, fields) => { d with fields := fields }

def header? (d : Document) (cs : List Char) : Option (Document × List Char) :=
  let (item, cs) := match cs with
    | '[' :: rest => (true, rest)
    | rest => (false, rest)
  match key? cs with
  | none => none
  | some (names, rest) =>
    let rest? := match item, rest with
      | true, ']' :: ']' :: rest => some rest
      | false, ']' :: rest => some rest
      | _, _ => none
    match rest?, names.getLast? with
    | some rest, some name =>
      let opened := if item then openItem? names.dropLast name else openTable? names.dropLast name
      (d.change? opened).map fun d => ({ d with header := names }, rest)
    | _, _ => none

def field? (d : Document) (cs : List Char) : Option (Document × List Char) :=
  match fieldWith value? cs with
  | none => none
  | some (names, v, rest) =>
    (d.change? (atHeader? (addField? names v) d.header)).map fun d => (d, rest)

def statement? (d : Document) (cs : List Char) : Option (Document × List Char) :=
  match cs with
  | [] => some (d, [])
  | '[' :: rest => d.header? rest
  | c :: _ => if c = '#' ∨ (lineBreak? cs).isSome then some (d, cs) else d.field? cs

def run? : Nat → Document → List Char → Option Document
  | 0, _, _ => none
  | fuel + 1, d, cs =>
    match d.statement? (skipBlanks cs) with
    | none => none
    | some (d, rest) =>
      match skipComment? (skipBlanks rest) with
      | none => none
      | some [] => some d
      | some rest => (lineBreak? rest).bind (run? fuel d)

end Document

def parse? (text : String) : Option Value :=
  let cs := match text.toList with
    | c :: rest => if c.toNat = 0xFEFF then rest else c :: rest
    | [] => []
  (Document.run? (cs.length + 1) {} cs).map fun d => .table .header d.fields

end RequestRouting.Toml

import RequestRouting.Document.Shape
import RequestRouting.Json.Parser

/-!
# Reading parts of JSON documents

`select?` reads the parts of a document that a shape names. What it does not name only has to be
well-formed: its nesting and the size of its numbers are not limited, and the halves of surrogate
pairs may stand alone.
-/

set_option autoImplicit false

namespace RequestRouting.Json

open Document (Shape)

/-! ## Passing over values -/

def skipText? : List Char → Option (List Char)
  | [] => none
  | '"' :: rest => some rest
  | '\\' :: 'u' :: a :: b :: c :: d :: rest =>
    if [a, b, c, d].all fun x => (Text.digitValue? 16 x).isSome then skipText? rest else none
  | '\\' :: e :: rest => if "\"\\/bfnrt".toList.contains e then skipText? rest else none
  | c :: rest => if c.toNat < 0x20 then none else skipText? rest

def skipSingle? : List Char → Option (List Char)
  | 'n' :: 'u' :: 'l' :: 'l' :: rest => some rest
  | 't' :: 'r' :: 'u' :: 'e' :: rest => some rest
  | 'f' :: 'a' :: 'l' :: 's' :: 'e' :: rest => some rest
  | '"' :: rest => skipText? rest
  | '-' :: rest => skipNumber? rest
  | cs => skipNumber? cs

def skipName? (cs : List Char) : Option (List Char) :=
  match skipSpace cs with
  | '"' :: rest =>
    match (skipText? rest).map skipSpace with
    | some (':' :: rest) => some rest
    | _ => none
  | _ => none

inductive Container where
  | array
  | object

def enter? : Container → List Char → Option (List Char)
  | .array, cs => some cs
  | .object, cs => skipName? cs

/-- Passes a value, or what follows one if `done`, up to the end of all open containers, the
innermost of which comes first; `fuel` bounds the steps. -/
def skipFrom? : Nat → Bool → List Container → List Char → Option (List Char)
  | 0, _, _, _ => none
  | _ + 1, true, [], cs => some cs
  | fuel + 1, true, inner :: outer, cs =>
    match inner, skipSpace cs with
    | .array, ']' :: rest => skipFrom? fuel true outer rest
    | .object, '\x7d' :: rest => skipFrom? fuel true outer rest
    | inner, ',' :: rest =>
      match enter? inner rest with
      | none => none
      | some rest => skipFrom? fuel false (inner :: outer) rest
    | _, _ => none
  | fuel + 1, false, outer, cs =>
    match skipSpace cs with
    | '[' :: rest =>
      match skipSpace rest with
      | ']' :: rest => skipFrom? fuel true outer rest
      | rest => skipFrom? fuel false (.array :: outer) rest
    | '\x7b' :: rest =>
      match skipSpace rest with
      | '\x7d' :: rest => skipFrom? fuel true outer rest
      | rest =>
        match skipName? rest with
        | none => none
        | some rest => skipFrom? fuel false (.object :: outer) rest
    | cs =>
      match skipSingle? cs with
      | none => none
      | some rest => skipFrom? fuel true outer rest

def skipValue? (cs : List Char) : Option (Json × List Char) :=
  (skipFrom? (cs.length + 2) false [] cs).map fun rest => (.null, rest)

/-! ## Reading by a shape -/

/-- One value at the front of the text, of which only the named parts are read. -/
def selectWithin : Nat → Shape → List Char → Option (Json × List Char)
  | depth + 1, .list items, '[' :: rest => arrayWith (fun _ => selectWithin depth items) rest
  | depth + 1, .record fields, '[' :: rest =>
    arrayWith (fun i => match fields[i]? with
      | some (_, shape) => selectWithin depth shape
      | none => valueWithin depth) rest
  | depth + 1, .record fields, '\x7b' :: rest =>
    objectWith (fun name => match fields.lookup name with
      | some shape => selectWithin depth shape
      | none => skipValue?) rest
  | depth, _, cs => valueWithin depth cs

def select? (shape : Shape) (text : String) : Option Json :=
  whole? (selectWithin maxDepth shape) text

end RequestRouting.Json

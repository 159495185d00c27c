import RequestRouting.Document.Shape
import RequestRouting.Yaml.Node

/-!
# Aliases in YAML documents

Aliases stand for what they refer to. How often they may do so while a document is read is limited
by the size of the document, so that a short text cannot stand for a huge value.
-/

set_option autoImplicit false

namespace RequestRouting.Yaml.Node

open Document (Shape)

def content (anchors : List (Nat × Node)) : Node → Node
  | .alias id => (target? anchors id).getD empty
  | .anchored _ n => n
  | n => n

def text? : Node → Option String
  | .scalar _ _ text => some text
  | _ => none

def isAlias : Node → Bool
  | .alias _ => true
  | _ => false

mutual

def size : Node → Nat
  | .scalar .. | .alias _ => 1
  | .sequence items => sizeOfItems items + 2
  | .mapping entries => sizeOfEntries entries + 2
  | .anchored _ n => size n

def sizeOfItems : List Node → Nat
  | [] => 0
  | n :: rest => size n + sizeOfItems rest

def sizeOfEntries : List (Node × Node) → Nat
  | [] => 0
  | (k, v) :: rest => size k + size v + sizeOfEntries rest

end

def valueUnder? (anchors : List (Nat × Node)) (name : String) (entries : List (Node × Node)) :
    Option Node :=
  (entries.find? fun e => text? (content anchors e.1) == some name).map (·.2)

mutual

/-- How many aliases are met while the parts that a shape names are read, each as often as it is
met. -/
def aliasUses (anchors : List (Nat × Node)) : Shape → Node → Nat
  | .single, n => n.isAlias.toNat
  | .list shape, n =>
    n.isAlias.toNat + match content anchors n with
      | .sequence items => (items.map (aliasUses anchors shape)).sum
      | _ => 0
  | .record fields, n =>
    n.isAlias.toNat + match content anchors n with
      | .mapping entries =>
        entries.countP (fun e => e.1.isAlias) + aliasUsesOfFields anchors fields entries
      | _ => 0

def aliasUsesOfFields (anchors : List (Nat × Node)) :
    List (String × Shape) → List (Node × Node) → Nat
  | [], _ => 0
  | (name, shape) :: rest, entries =>
    ((valueUnder? anchors name entries).map (aliasUses anchors shape)).getD 0 +
      aliasUsesOfFields anchors rest entries

end

/-- Whether aliases are met more than a hundred times as often as the document has parts. -/
def overusesAliases (document : Node) (shape : Shape) : Bool :=
  100 * document.size < aliasUses (anchors document) shape document

end RequestRouting.Yaml.Node

import RequestRouting.Document.Reader
import RequestRouting.Text.Numeral
import RequestRouting.Yaml.Aliases

/-!
# Records in YAML

A plain scalar is a number, a truth value or null by its text; every scalar is a text. An empty
plain scalar is also an empty record and an empty list. Aliases stand for what they refer to.
-/

set_option autoImplicit false

namespace RequestRouting.Yaml.Node

def intTag : String := "tag:yaml.org,2002:int"
def boolTag : String := "tag:yaml.org,2002:bool"
def nullTag : String := "tag:yaml.org,2002:null"

def isEmpty : Node → Bool
  | .scalar .plain _ text => text.isEmpty
  | _ => false

/-- The text of a scalar that stands for a value of its own: a plain one, or a literal block with
the tag of the value. -/
def literalText? (tag : String) : Node → Option String
  | .scalar .plain _ text => some text
  | .scalar .literal (some t) text => if t = tag then some text else none
  | _ => none

def based? (marker : Char) (base : Nat) : List Char → Option (Option Nat)
  | '0' :: m :: digits => if m = marker then some (Text.readNumeral base digits) else none
  | _ => none

/-- A number of at most 64 bits: decimal without leading zeros, or marked as hexadecimal, octal or
binary, with at most one plus sign. -/
def readNatural (text : String) : Option Nat :=
  let digits := match text.toList with
    | '+' :: rest => rest
    | cs => cs
  match based? 'x' 16 digits, based? 'o' 8 digits, based? 'b' 2 digits with
  | some n, _, _ | _, some n, _ | _, _, some n => n
  | none, none, none =>
    match digits with
    | '0' :: _ :: _ => none
    | _ => Text.readNumeral 10 digits

def readBoolean (text : String) : Option Bool :=
  if ["true", "True", "TRUE"].contains text then some true
  else if ["false", "False", "FALSE"].contains text then some false
  else none

def namesNull (text : String) : Bool := ["null", "Null", "NULL", "~"].contains text

/-- Whether a value is left open. A scalar with the tag of null must name it. -/
def openness? : Node → Option Bool
  | .scalar .plain none text => some (text.isEmpty || namesNull text)
  | .scalar .plain (some tag) text =>
    if tag = nullTag then if namesNull text then some true else none else some false
  | _ => some false

def fields? (anchors : List (Nat × Node)) (n : Node) : Option (List (String × Node)) :=
  match n with
  | .mapping entries => entries.mapM fun (k, v) => (text? (content anchors k)).map fun k => (k, v)
  | n => if isEmpty n then some [] else none

def items? (n : Node) : Option (List Node) :=
  match n with
  | .sequence items => some items
  | n => if isEmpty n then some [] else none

def reader (document : Node) : Document.Reader Node :=
  let follow := content (anchors document)
  { fields? := fun n => fields? (anchors document) (follow n)
    items? := fun n => items? (follow n)
    text? := fun n => text? (follow n)
    natural? := fun n => (literalText? intTag (follow n)).bind readNatural
    boolean? := fun n => (literalText? boolTag (follow n)).bind readBoolean
    isNull? := fun n => openness? (follow n)
    recordLists := .refused }

end RequestRouting.Yaml.Node

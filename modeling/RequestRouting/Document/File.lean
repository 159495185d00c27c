import RequestRouting.Json.Reading
import RequestRouting.Json.Selection
import RequestRouting.Text.Ascii
import RequestRouting.Toml.Reading
import RequestRouting.Yaml.Reading

/-!
# Documents in files

A file holds one document, in the format that the extension of its name tells. It is read before the
extension is looked at.
-/

set_option autoImplicit false

namespace RequestRouting.Document

abbrev FileSystem := String → Option ByteArray

inductive Format where
  | yaml
  | toml
  | json
  deriving DecidableEq

inductive ReadFault where
  | notFound
  | invalidData
  deriving DecidableEq

inductive LoadError where
  | unreadable (fault : ReadFault)
  | malformed (format : Format)
  | unsupported (extension : String)
  deriving DecidableEq

def ReadFault.mark : ReadFault → String
  | .notFound => "<io NotFound>"
  | .invalidData => "<io InvalidData>"

namespace Format

def name : Format → String
  | .yaml => "YAML"
  | .toml => "TOML"
  | .json => "JSON"

def mark : Format → String
  | .yaml => "<yaml>"
  | .toml => "<toml>"
  | .json => "<json>"

def ofExtension? : String → Option Format
  | "yaml" | "yml" => some .yaml
  | "toml" => some .toml
  | "json" => some .json
  | _ => none

def read {α : Type} (f : Format) (schema : Schema α) (text : String) : Option α :=
  match f with
  | .yaml =>
    (Yaml.Node.parse? text).bind fun d =>
      if d.overusesAliases schema.shape then none else schema.read (Yaml.Node.reader d) d
  | .toml => (Toml.parse? text).bind (schema.read Toml.reader)
  | .json => (Json.select? schema.shape text).bind (schema.read Json.reader)

end Format

/-- The text behind the last dot of a name, in lower case. A dot at the start does not count. -/
def extension (name : String) : String :=
  let (reversed, rest) := name.toList.reverse.span (· != '.')
  match rest with
  | [] | [_] => ""
  | _ => Text.lower (String.ofList reversed.reverse)

def readText (files : FileSystem) (name : String) : Except ReadFault String :=
  match files name with
  | none => .error .notFound
  | some bytes =>
    match String.fromUTF8? bytes with
    | none => .error .invalidData
    | some text => .ok text

def load {α : Type} (files : FileSystem) (schema : Schema α) (name : String) :
    Except LoadError α :=
  match readText files name with
  | .error fault => .error (.unreadable fault)
  | .ok text =>
    match Format.ofExtension? (extension name) with
    | none => .error (.unsupported (extension name))
    | some format =>
      match format.read schema text with
      | none => .error (.malformed format)
      | some value => .ok value

end RequestRouting.Document

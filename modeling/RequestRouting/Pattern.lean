import RequestRouting.Text.Split

/-!
# Route patterns

A path is cut at its slashes, and empty parts are dropped. A pattern starts with a slash; each of
its parts is literal, or binds one part under a name (`:name` or the name in braces), or, in the
last place, binds all that is left (`*name`, or `*` without a name).
-/

set_option autoImplicit false

namespace RequestRouting

def pathParts (path : String) : List String :=
  (Text.pieces '/' path).filter (· != "")

inductive Segment where
  | literal (text : String)
  | param (name : String)
  | catchAll (name : Option String)
  deriving DecidableEq

namespace Segment

def paramName : Segment → Option String
  | .literal _ => none
  | .param name => some name
  | .catchAll name => name

def isParametric : Segment → Bool
  | .literal _ => false
  | _ => true

def isCatchAll : Segment → Bool
  | .catchAll _ => true
  | _ => false

end Segment

/-- A part of a pattern as it is written, and what it stands for. -/
structure PatternPart where
  raw : String
  segment : Segment
  deriving DecidableEq

inductive PatternFault where
  | missingLeadingSlash
  | malformedSegment (segment : String)
  | emptyParamName (segment : String)
  | invalidParamName (name : String)
  | duplicateParamName (name : String)
  | catchAllNotLast (segment : String)
  | conflictingCatchAll (segment existing : String)
  deriving DecidableEq

structure PatternError where
  pattern : String
  fault : PatternFault
  deriving DecidableEq

namespace PatternFault

def message : PatternFault → String
  | .missingLeadingSlash => "must start with '/'"
  | .malformedSegment segment =>
    "malformed segment '" ++ segment ++
      "' (braces must wrap the whole segment, e.g. '\x7bid\x7d')"
  | .emptyParamName segment => "parameter segment '" ++ segment ++ "' has no name"
  | .invalidParamName name => "parameter name '" ++ name ++ "' is not a valid identifier"
  | .duplicateParamName name => "parameter '" ++ name ++ "' is bound more than once"
  | .catchAllNotLast segment => "catch-all '" ++ segment ++ "' must be the last segment"
  | .conflictingCatchAll segment existing =>
    "catch-all '" ++ segment ++ "' conflicts with already registered '" ++ existing ++
      "' at the same position"

end PatternFault

def PatternError.message (e : PatternError) : String :=
  "invalid route pattern '" ++ e.pattern ++ "': " ++ e.fault.message

namespace Pattern

/-- A name starts with an ASCII letter or an underscore. -/
def isNameStart (c : Char) : Bool := c.isAlpha || c == '_'

def isNameRest (c : Char) : Bool := c.isAlphanum || c == '_' || c == '.' || c == '-'

def isName : List Char → Bool
  | [] => false
  | c :: rest => isNameStart c && rest.all isNameRest

def readName (raw : String) (name : List Char) : Except PatternFault String :=
  if name.isEmpty then .error (.emptyParamName raw)
  else if isName name then .ok (String.ofList name)
  else .error (.invalidParamName (String.ofList name))

/-- What a part stands for. Braces are allowed only around a whole part. -/
def readSegment (raw : String) : Except PatternFault Segment :=
  match raw.toList with
  | '\x7b' :: rest =>
    if rest.getLast? = some '\x7d' then (readName raw rest.dropLast).map .param
    else .error (.malformedSegment raw)
  | cs =>
    if cs.contains '\x7b' || cs.contains '\x7d' then .error (.malformedSegment raw)
    else match cs with
      | ':' :: name => (readName raw name).map .param
      | ['*'] => .ok (.catchAll none)
      | '*' :: name => (readName raw name).map fun n => .catchAll (some n)
      | _ => .ok (.literal raw)

/-- Reads the parts from left to right; `seen` are the names bound before. -/
def readParts (seen : List String) : List String → Except PatternFault (List PatternPart)
  | [] => .ok []
  | raw :: rest =>
    match readSegment raw with
    | .error fault => .error fault
    | .ok segment =>
      if segment.isCatchAll && !rest.isEmpty then .error (.catchAllNotLast raw)
      else match segment.paramName with
        | none => (readParts seen rest).map (⟨raw, segment⟩ :: ·)
        | some name =>
          if name ∈ seen then .error (.duplicateParamName name)
          else (readParts (name :: seen) rest).map (⟨raw, segment⟩ :: ·)

def parse (pattern : String) : Except PatternError (List PatternPart) :=
  if pattern.toList.head? = some '/' then
    (readParts [] (pathParts pattern)).mapError fun fault => ⟨pattern, fault⟩
  else .error ⟨pattern, .missingLeadingSlash⟩

end Pattern

end RequestRouting

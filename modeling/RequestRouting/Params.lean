import RequestRouting.Json.Basic
import RequestRouting.Text.Split

/-!
# Bound parameters

The names and values that a match binds, in the order of the path. The first pair of a name is
the one that counts; `toJson` gives each name its last value.
-/

set_option autoImplicit false

namespace RequestRouting

structure Params where
  pairs : List (String × String) := []
  deriving DecidableEq

structure ParamError where
  names : List String
  deriving DecidableEq

def ParamError.message (e : ParamError) : String :=
  match e.names with
  | [name] => "path parameter '" ++ name ++ "' not found"
  | names => "none of the path parameters [" ++ Text.joinWith ", " names ++ "] found"

namespace Params

/-- The names under which an identifier may be bound, the preferred one first. -/
def idKeys : List String := ["id", "_id"]

def push (p : Params) (name value : String) : Params := ⟨p.pairs ++ [(name, value)]⟩

def get? (p : Params) (name : String) : Option String := p.pairs.lookup name

def getOr (p : Params) (name default : String) : String := (p.get? name).getD default

def require (p : Params) (name : String) : Except ParamError String :=
  match p.get? name with
  | some value => .ok value
  | none => .error ⟨[name]⟩

def id (p : Params) : Except ParamError String :=
  match idKeys.findSome? p.get? with
  | some value => .ok value
  | none => .error ⟨idKeys⟩

def toJson (p : Params) : Json := Json.ofTexts p.pairs

end Params

end RequestRouting

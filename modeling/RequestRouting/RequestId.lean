import RequestRouting.Json.Number
import RequestRouting.Text.Ascii
import RequestRouting.Text.Blank

/-!
# Request identifiers

A request identifier is a number of 128 bits, 48 of time and 80 of chance. It is written with 26
digits in base 32, the most significant first; letters are read in either case.
-/

set_option autoImplicit false

namespace RequestRouting

structure RequestId where
  bits : BitVec 128
  deriving DecidableEq

namespace RequestId

def headerName : String := "x-request-id"

/-- The digits of base 32, which has no `I`, `L`, `O` and `U`. -/
def alphabet : List Char := "0123456789ABCDEFGHJKMNPQRSTVWXYZ".toList

def digitCount : Nat := 26

def digit (n : Nat) : Char := alphabet.getD n '0'

def digitValue? (c : Char) : Option Nat := alphabet.idxOf? c.toUpper

inductive DecodeFault where
  | invalidLength
  | invalidChar
  deriving DecidableEq

def DecodeFault.message : DecodeFault → String
  | .invalidLength => "invalid length"
  | .invalidChar => "invalid character"

structure Invalid where
  value : String
  fault : DecodeFault
  deriving DecidableEq

def Invalid.message (e : Invalid) : String :=
  "invalid request id '" ++ e.value ++ "': " ++ e.fault.message

def digits (id : RequestId) : List Nat :=
  (List.range digitCount).map fun i => id.bits.toNat / Nat.pow 32 (digitCount - 1 - i) % 32

def text (id : RequestId) : String := String.ofList (id.digits.map digit)

/-- The number of the digits; of more than 128 bits the lowest are kept. -/
def ofDigits (ds : List Nat) : RequestId :=
  ⟨BitVec.ofNat 128 (ds.foldl (fun n d => n * 32 + d) 0)⟩

/-- Reads digits alone. The length counts bytes and is looked at first. -/
def decode (s : String) : Except DecodeFault RequestId :=
  if s.utf8ByteSize ≠ digitCount then .error .invalidLength
  else match s.toList.mapM digitValue? with
    | some ds => .ok (ofDigits ds)
    | none => .error .invalidChar

def read (s : String) : Except Invalid RequestId :=
  match decode (Text.trim s) with
  | .ok id => .ok id
  | .error fault => .error ⟨s, fault⟩

def readOr (minted : RequestId) (s : Option String) : RequestId :=
  match s.map read with
  | some (.ok id) => id
  | _ => minted

def timestamp (id : RequestId) : Nat := id.bits.toNat / Nat.pow 2 80

instance : Ord RequestId := ⟨fun a b => compare a.bits.toNat b.bits.toNat⟩

def toJson (id : RequestId) : Json := .string id.text

def unexpected : Json → String
  | .null => "null"
  | .bool b => "boolean `" ++ (if b then "true" else "false") ++ "`"
  | .int n => "integer `" ++ toString n ++ "`"
  | .real negative x => "floating point `" ++ Json.realText negative x ++ "`"
  | .string s => "string \"" ++ s ++ "\""
  | .array _ => "sequence"
  | .object _ => "map"

def ofJson : Json → Except String RequestId
  | .string s =>
    match read s with
    | .ok id => .ok id
    | .error e => .error e.message
  | v => .error ("invalid type: " ++ unexpected v ++ ", expected a string")

end RequestId

end RequestRouting

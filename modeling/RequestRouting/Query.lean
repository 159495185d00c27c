import RequestRouting.Text.Split
import RequestRouting.Text.Utf8

/-!
# Query strings

Pairs separated by `&`, the name before the first `=`. A plus sign is a space, and a percent sign
with two hexadecimal digits is a byte; the bytes are read as UTF-8.
-/

set_option autoImplicit false

namespace RequestRouting.Query

def hexValue? (b : UInt8) : Option UInt8 :=
  if 0x30 ≤ b ∧ b ≤ 0x39 then some (b - 0x30)
  else if 0x41 ≤ b ∧ b ≤ 0x46 then some (b - 0x41 + 10)
  else if 0x61 ≤ b ∧ b ≤ 0x66 then some (b - 0x61 + 10)
  else none

def plusToSpace (bytes : List UInt8) : List UInt8 :=
  bytes.map fun b => if b = 0x2B then 0x20 else b

/-- A percent sign that no two hexadecimal digits follow stays as it is. -/
def percentDecode : List UInt8 → List UInt8
  | 0x25 :: a :: b :: rest =>
    match hexValue? a, hexValue? b with
    | some high, some low => (high * 16 + low) :: percentDecode rest
    | _, _ => 0x25 :: percentDecode (a :: b :: rest)
  | b :: rest => b :: percentDecode rest
  | [] => []

def decode (s : String) : String :=
  Text.decodeLossy (percentDecode (plusToSpace (Text.utf8Bytes s)))

/-- The name and value of one part; a part without `=` has the empty value. -/
def readPair (s : String) : String × String :=
  match Text.cutFirst '=' s with
  | some (name, value) => (decode name, decode value)
  | none => (decode s, "")

def parse (query : String) : List (String × String) :=
  ((Text.pieces '&' query).filter (· != "")).map readPair

end RequestRouting.Query

import RequestRouting.Binary64.Shortest
import RequestRouting.Regex.Parser
import RequestRouting.Text.Ascii
import RequestRouting.Text.Decimal
import RequestRouting.Text.Split

/-!
# Fields in log filters

A field that a span must have, and what its value must be: a truth value, a number, or a text that
matches a regular expression.
-/

set_option autoImplicit false

namespace RequestRouting

inductive ValueTest where
  | truth (b : Bool)
  | natural (n : Nat)
  | integer (n : Int)
  | real (negative : Bool) (magnitude : Binary64)
  | infinite (negative : Bool)
  | notANumber
  | pattern (text : String)
  deriving DecidableEq

namespace ValueTest

def readInteger? (s : String) : Option ValueTest :=
  match Text.readUnsigned s, s.toList with
  | some n, _ => some (.natural n)
  | none, '-' :: digits =>
    ((Text.readDigits digits).filter (· ≤ UInt64.size / 2)).map fun n => .integer (-(n : Int))
  | none, _ => none

def readExponent? : List Char → Option Int
  | [] => some 0
  | c :: rest =>
    let (negative, digits) := match rest with
      | '-' :: more => (true, more)
      | '+' :: more => (false, more)
      | more => (false, more)
    if (c == 'e' || c == 'E') && !digits.isEmpty && digits.all Char.isDigit then
      let n : Int := Text.digitsNat digits
      some (if negative then -n else n)
    else none

def readDecimal? (negative : Bool) (cs : List Char) : Option ValueTest :=
  let (whole, rest) := cs.span Char.isDigit
  let (fraction, rest) := match rest with
    | '.' :: rest => rest.span Char.isDigit
    | rest => ([], rest)
  if whole.isEmpty && fraction.isEmpty then none
  else
    (readExponent? rest).map fun e =>
      match Binary64.ofDecimal? (Text.digitsNat (whole ++ fraction)) (e - fraction.length) with
      | some x => .real negative x
      | none => .infinite negative

def readReal? (s : String) : Option ValueTest :=
  let (negative, digits) := match s.toList with
    | '-' :: rest => (true, rest)
    | '+' :: rest => (false, rest)
    | rest => (false, rest)
  let name := Text.lower (String.ofList digits)
  if name = "nan" then some .notANumber
  else if name = "inf" ∨ name = "infinity" then some (.infinite negative)
  else readDecimal? negative digits

def readPattern? (s : String) : Option ValueTest :=
  ((Regex.parse? s).filter Regex.isUsable).map fun _ => .pattern s

def read? (s : String) : Option ValueTest :=
  if s = "true" then some (.truth true)
  else if s = "false" then some (.truth false)
  else (readInteger? s).or ((readReal? s).or (readPattern? s))

def signText (negative : Bool) : String := if negative then "-" else ""

def text : ValueTest → String
  | .truth b => if b then "true" else "false"
  | .natural n => toString n
  | .integer n => toString n
  | .real negative x => signText negative ++ (x.shortest .up).positional false
  | .infinite negative => signText negative ++ "inf"
  | .notANumber => "NaN"
  | .pattern text => text

def unsigned : ValueTest → ValueTest
  | .real negative x => .real (negative && x.significand != 0) x
  | v => v

end ValueTest

structure FieldMatch where
  name : String
  value : Option ValueTest := none
  deriving DecidableEq

namespace FieldMatch

def read? (s : String) : Option FieldMatch :=
  match Text.pieces '=' s with
  | name :: value :: _ => (ValueTest.read? value).map fun v => { name := name, value := some v }
  | _ => some { name := s }

def text (f : FieldMatch) : String :=
  match f.value with
  | none => f.name
  | some value => f.name ++ "=" ++ value.text

end FieldMatch

end RequestRouting

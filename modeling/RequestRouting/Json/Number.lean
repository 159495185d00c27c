import RequestRouting.Binary64.Shortest
import RequestRouting.Json.Basic
import RequestRouting.Text.Decimal

/-!
# Numbers of JSON

A number without a fraction and an exponent that has at most 64 bits is an integer, but for minus
zero. Any other is rounded in two steps: its digits to a significand of 64 bits, and that times a
power of ten.
-/

set_option autoImplicit false

namespace RequestRouting.Json

/-- A number with more than 64 bits is not an integer, nor is minus zero. -/
def isInteger (negative : Bool) (n : Nat) : Bool :=
  if negative then 0 < n && n ≤ UInt64.size / 2 else n < UInt64.size

def wholePart? (cs : List Char) : Option (List Char × List Char) :=
  match cs.span Char.isDigit with
  | ([], _) => none
  | ('0' :: _ :: _, _) => none
  | found => some found

def fraction? : List Char → Option (List Char × List Char)
  | '.' :: rest =>
    match rest.span Char.isDigit with
    | ([], _) => none
    | found => some found
  | cs => some ([], cs)

def exponent? : List Char → Option (Option Int × List Char)
  | c :: rest =>
    if c = 'e' || c = 'E' then
      let (negative, digits) := match rest with
        | '-' :: more => (true, more)
        | '+' :: more => (false, more)
        | more => (false, more)
      match digits.span Char.isDigit with
      | ([], _) => none
      | (ds, rest) =>
        let n : Int := Text.digitsNat ds
        some (some (if negative then -n else n), rest)
    else some (none, c :: rest)
  | [] => some (none, [])

/-! ## Rounding -/

/-- Appends digits to a significand until one does not fit into 64 bits, and returns the others. -/
def takeDigits (significand : Nat) : List Char → Nat × List Char
  | [] => (significand, [])
  | d :: rest =>
    let next := significand * 10 + (d.toNat - 0x30)
    if next < UInt64.size then takeDigits next rest else (significand, d :: rest)

def powerOfTen (k : Nat) : Binary64 := (Binary64.ofDecimal? 1 k).getD .zero

def scaleDown : Nat → Binary64 → Nat → Binary64
  | 0, x, _ => x
  | fuel + 1, x, k =>
    if k ≤ 308 then (x.over? (powerOfTen k)).getD .zero
    else if x.significand = 0 then x
    else scaleDown fuel ((x.over? (powerOfTen 308)).getD .zero) (k - 308)

def scaled? (significand : Nat) (exponent : Int) : Option Binary64 :=
  (Binary64.ofQuotient? significand 1).bind fun x =>
    if exponent < 0 then some (scaleDown (exponent.natAbs / 308 + 1) x exponent.natAbs)
    else if exponent ≤ 308 then x.times? (powerOfTen exponent.toNat)
    else if significand = 0 then some x
    else none

/-- The number with the given digits before and behind the point. The digits before it that do not
fit raise the exponent, and those behind it are dropped. -/
def real? (whole fraction : List Char) (exponent : Int) : Option Binary64 :=
  let (significand, raised) := takeDigits 0 whole
  let (significand, dropped) := takeDigits significand fraction
  scaled? significand (raised.length - (fraction.length - dropped.length) + exponent)

/-! ## Reading and writing -/

def number? (negative : Bool) (cs : List Char) : Option (Json × List Char) :=
  match wholePart? cs with
  | none => none
  | some (whole, afterWhole) =>
    match fraction? afterWhole with
    | none => none
    | some (fraction, afterFraction) =>
      match exponent? afterFraction with
      | none => none
      | some (exponent, rest) =>
        let n := Text.digitsNat whole
        if fraction.isEmpty && exponent.isNone && isInteger negative n then
          some (.int (if negative then -(n : Int) else n), rest)
        else (real? whole fraction (exponent.getD 0)).map fun x => (.real negative x, rest)

def skipNumber? (cs : List Char) : Option (List Char) :=
  (wholePart? cs).bind fun (_, rest) =>
    (fraction? rest).bind fun (_, rest) => (exponent? rest).map (·.2)

/-- The text of a number that is no integer: positional if its point stands among the first sixteen
digits or at most four zeros before them. -/
def realText (negative : Bool) (x : Binary64) : String :=
  let d := x.shortest .toEven
  let text := if -5 < d.point && d.point ≤ 16 then d.positional true else d.scientific
  if negative then "-" ++ text else text

end RequestRouting.Json

/-!
# Decimal numbers

Numbers of at most 64 bits, written in decimal digits with an optional plus sign, and lengths of
time in the unit that suits them.
-/

set_option autoImplicit false

namespace RequestRouting.Text

def digitsNat (digits : List Char) : Nat :=
  digits.foldl (fun n c => n * 10 + (c.toNat - 0x30)) 0

def readDigits (cs : List Char) : Option Nat :=
  if cs.isEmpty || !cs.all Char.isDigit then none
  else if digitsNat cs < UInt64.size then some (digitsNat cs) else none

def readUnsigned (s : String) : Option Nat :=
  match s.toList with
  | '+' :: rest => readDigits rest
  | cs => readDigits cs

def padZeros (width n : Nat) : List Char :=
  let digits := Nat.toDigits 10 n
  List.replicate (width - digits.length) '0' ++ digits

/-- `n / 10 ^ places` in positional notation, without zeros at the end of the fraction. -/
def fixedPoint (places n : Nat) : String :=
  let fraction := ((padZeros places (n % Nat.pow 10 places)).reverse.dropWhile (· == '0')).reverse
  let whole := toString (n / Nat.pow 10 places)
  if fraction.isEmpty then whole else whole ++ "." ++ String.ofList fraction

def duration (micros : Nat) : String :=
  if micros = 0 then "0ns"
  else if micros < 1000 then toString micros ++ "µs"
  else if micros < 1000000 then fixedPoint 3 micros ++ "ms"
  else fixedPoint 6 micros ++ "s"

end RequestRouting.Text

/-!
# Numerals

Digits in any base up to sixteen.
-/

set_option autoImplicit false

namespace RequestRouting.Text

def digitValue? (base : Nat) (c : Char) : Option Nat :=
  let n := c.toNat
  let v? :=
    if 0x30 ≤ n ∧ n ≤ 0x39 then some (n - 0x30)
    else if 0x41 ≤ n ∧ n ≤ 0x46 then some (n - 0x41 + 10)
    else if 0x61 ≤ n ∧ n ≤ 0x66 then some (n - 0x61 + 10)
    else none
  v?.filter (· < base)

def numeral (base : Nat) (digits : List Nat) : Nat := digits.foldl (fun n d => n * base + d) 0

def readNumeral (base : Nat) (cs : List Char) : Option Nat :=
  if cs.isEmpty then none
  else ((cs.mapM (digitValue? base)).map (numeral base)).filter (· < UInt64.size)

end RequestRouting.Text

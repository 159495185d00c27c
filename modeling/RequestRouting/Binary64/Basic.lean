/-!
# Binary floating-point numbers

The finite numbers of 64 bits without their sign: 53 bits of significand times a power of two. A
quotient is rounded to the nearest of them, and a half to the even one.
-/

set_option autoImplicit false

namespace RequestRouting

/-- The number `significand` times two to the power `exponent`. The exponent is the least one at
which the significand has at most 53 bits, but not below -1074. -/
structure Binary64 where
  significand : Nat
  exponent : Int
  deriving DecidableEq

namespace Binary64

def leastExponent : Int := -1074

def greatestExponent : Int := 971

def zero : Binary64 := ⟨0, leastExponent⟩

/-- A quotient rounded to the nearest natural number, a half to the even one. -/
def roundDiv (n d : Nat) : Nat :=
  let q := n / d
  let twice := 2 * (n % d)
  if twice < d || (twice == d && q % 2 == 0) then q else q + 1

def inUnits (e : Int) (n d : Nat) : Nat × Nat :=
  (n * Nat.pow 2 (-e).toNat, d * Nat.pow 2 e.toNat)

def exponentOf (n d : Nat) : Int :=
  let e : Int := n.log2 - d.log2 - 53
  let (a, b) := inUnits e n d
  max leastExponent (if a / b < Nat.pow 2 53 then e else e + 1)

def ofQuotient? (n d : Nat) : Option Binary64 :=
  if n = 0 then some zero
  else
    let e := exponentOf n d
    let (a, b) := inUnits e n d
    let m := roundDiv a b
    let x : Binary64 := if m = Nat.pow 2 53 then ⟨Nat.pow 2 52, e + 1⟩ else ⟨m, e⟩
    if x.exponent ≤ greatestExponent then some x else none

def ofDecimal? (digits : Nat) (exponent : Int) : Option Binary64 :=
  if digits = 0 then some zero
  else if 400 < exponent then none
  else if exponent < -400 - (digits.log2 : Int) then some zero
  else ofQuotient? (digits * Nat.pow 10 exponent.toNat) (Nat.pow 10 (-exponent).toNat)

def times? (x y : Binary64) : Option Binary64 :=
  let (n, d) := inUnits (-(x.exponent + y.exponent)) (x.significand * y.significand) 1
  ofQuotient? n d

def over? (x y : Binary64) : Option Binary64 :=
  let (n, d) := inUnits (y.exponent - x.exponent) x.significand y.significand
  ofQuotient? n d

end Binary64

end RequestRouting

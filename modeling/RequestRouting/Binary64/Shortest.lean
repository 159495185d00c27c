import RequestRouting.Binary64.Basic

/-!
# The shortest decimals of floating-point numbers

`shortest` finds the decimal with the fewest digits that rounds to a number, and of these the
nearest one. A decimal is written in positional notation or with an exponent.
-/

set_option autoImplicit false

namespace RequestRouting

structure Decimal where
  digits : Nat
  exponent : Int
  deriving DecidableEq

/-- Which of two equally near decimals is taken: the one with the even last digit, or the greater
one. -/
inductive Tie where
  | toEven
  | up
  deriving DecidableEq

namespace Binary64

def measures (x : Binary64) (k : Int) : Nat × Nat :=
  let q := x.exponent - 2
  (Nat.pow 2 q.toNat * Nat.pow 10 (-k).toNat, Nat.pow 10 k.toNat * Nat.pow 2 (-q).toNat)

def hasNarrowGap (x : Binary64) : Bool :=
  x.significand == Nat.pow 2 52 && leastExponent < x.exponent

/-- Whether `c` times ten to the power `k` is rounded to `x`: it lies between the halves of the gaps
around `x`, whose ends count if the significand is even. -/
def readsBack (x : Binary64) (k : Int) (c : Nat) : Bool :=
  let (quarter, grid) := x.measures k
  let low := (4 * x.significand - if x.hasNarrowGap then 1 else 2) * quarter
  let high := (4 * x.significand + 2) * quarter
  let ends := x.significand % 2 == 0
  (low < c * grid || (ends && low == c * grid)) && (c * grid < high || (ends && c * grid == high))

def onGrid? (tie : Tie) (x : Binary64) (k : Int) : Option Nat :=
  let (quarter, grid) := x.measures k
  let twice := 8 * x.significand * quarter
  let c := 4 * x.significand * quarter / grid
  let middle := (2 * c + 1) * grid
  let nearer :=
    if twice < middle || (twice == middle && tie == .toEven && c % 2 == 0) then c else c + 1
  [nearer, c, c + 1].find? (x.readsBack k)

def leadingPower (x : Binary64) : Int :=
  let (n, d) := inUnits (-x.exponent) x.significand 1
  if d ≤ n then (Nat.toDigits 10 (n / d)).length - 1
  else -(Nat.toDigits 10 ((d - 1) / n)).length

def withoutZeros : Nat → Decimal → Decimal
  | 0, d => d
  | fuel + 1, d =>
    if d.digits % 10 = 0 then withoutZeros fuel ⟨d.digits / 10, d.exponent + 1⟩ else d

def exact (x : Binary64) : Decimal :=
  if 0 ≤ x.exponent then ⟨x.significand * Nat.pow 2 x.exponent.toNat, 0⟩
  else ⟨x.significand * Nat.pow 5 (-x.exponent).toNat, x.exponent⟩

/-- The decimal with the fewest digits that is rounded to `x`, and of these the nearest one. The
grids are tried from the first digit on; seventeen digits suffice. -/
def shortest (tie : Tie) (x : Binary64) : Decimal :=
  if x.significand = 0 then ⟨0, 0⟩
  else
    let found := (List.range 17).findSome? fun (i : Nat) =>
      let k := x.leadingPower - i
      (x.onGrid? tie k).map fun c => (⟨c, k⟩ : Decimal)
    withoutZeros 18 (found.getD x.exact)

end Binary64

namespace Decimal

def figures (d : Decimal) : List Char := Nat.toDigits 10 d.digits

def point (d : Decimal) : Int := d.figures.length + d.exponent

def positional (pointZero : Bool) (d : Decimal) : String :=
  let figures := d.figures
  if 0 ≤ d.exponent then
    String.ofList (figures ++ List.replicate d.exponent.toNat '0' ++
      if pointZero then ['.', '0'] else [])
  else
    let places := (-d.exponent).toNat
    let padded := List.replicate (places + 1 - figures.length) '0' ++ figures
    let whole := padded.length - places
    String.ofList (padded.take whole ++ '.' :: padded.drop whole)

def scientific (d : Decimal) : String :=
  let fraction := match d.figures.drop 1 with
    | [] => []
    | rest => '.' :: rest
  String.ofList (d.figures.take 1 ++ fraction ++ ['e']) ++ toString (d.point - 1)

end Decimal

end RequestRouting

/-
**Numbers of the binary64 format.**

Editor state holds integers of any size and numbers with a fraction; the latter are rounded to the
binary64 grid when they are read.  A finite value is kept exactly, as a dyadic rational, so that
equality and order of numbers are those of the values themselves.

Main definitions:

* `BlockSketch.Binary64` — the values of the format; zero has two signs, and there are two
  infinities and one value that is no number;
* `BlockSketch.roundDiv` — a quotient rounded to the nearest integer, a half to the even one;
* `BlockSketch.gridExponent` — the grid on which the format holds the numbers near a ratio;
* `BlockSketch.Binary64.ofRatio`, `BlockSketch.Binary64.ofDecimal` — the value nearest to a ratio
  and to a decimal.
-/

set_option relaxedAutoImplicit false
set_option autoImplicit false

namespace BlockSketch

/-- A value of the binary64 format.  The zero of `finite` has no sign. -/
inductive Binary64 where
  | finite (value : Dyadic)
  | negativeZero
  | infinite (negative : Bool)
  | nan
  deriving DecidableEq

instance : Inhabited Binary64 := ⟨.finite 0⟩

/-- The quotient rounded to the nearest integer, a half to the even one. -/
def roundDiv (num den : Nat) : Nat :=
  let q := num / den
  let r := num % den
  if 2 * r < den then q
  else if 2 * r = den then q + q % 2
  else q + 1

/-- The number times two to the power of `e`, if `e` is positive. -/
def scaleUp (n : Nat) (e : Int) : Nat :=
  n * Nat.pow 2 e.toNat

/-- The number times ten to the power of `e`, if `e` is positive. -/
def scaleTens (n : Nat) (e : Int) : Nat :=
  n * Nat.pow 10 e.toNat

/-- The greatest `e` with `2 ^ e ≤ num / den`, for positive numbers. -/
def floorLog2 (num den : Nat) : Int :=
  let e : Int := (num.log2 : Int) - (den.log2 : Int)
  if scaleUp den e ≤ scaleUp num (-e) then e else e - 1

/-- Near the positive ratio `num / den`, the format holds the multiples of `2 ^ gridExponent`. -/
def gridExponent (num den : Nat) : Int :=
  max (-1074) (floorLog2 num den - 52)

/-- The multiple of the grid that is nearest to the ratio, with the exponent of the grid. -/
def roundToGrid (num den : Nat) : Nat × Int :=
  let e := gridExponent num den
  (roundDiv (scaleUp num (-e)) (scaleUp den e), e)

namespace Binary64

/-- The zero of the given sign. -/
def zero (negative : Bool) : Binary64 :=
  if negative then .negativeZero else .finite 0

/-- The value nearest to a ratio of natural numbers, taken with a sign.  From
`2 ^ 1024 - 2 ^ 970` on it is infinite. -/
def ofRatio (negative : Bool) (num den : Nat) : Binary64 :=
  if num = 0 then zero negative
  else
    let (m, e) := roundToGrid num den
    if m = 0 then zero negative
    else if Nat.pow 2 1024 ≤ scaleUp m e then .infinite negative
    else .finite (Dyadic.ofIntWithPrec (if negative then -(m : Int) else m) (-e))

/-- The value nearest to `digits * 10 ^ exponent`, taken with a sign.  Exponents that decide the
value by themselves are not raised to. -/
def ofDecimal (negative : Bool) (digits : Nat) (exponent : Int) : Binary64 :=
  if digits = 0 then zero negative
  else if 400 < exponent then .infinite negative
  else if exponent < -400 - (digits.log2 : Int) then zero negative
  else ofRatio negative (scaleTens digits exponent) (scaleTens 1 (-exponent))

/-- The exact value of a finite number. -/
def toDyadic? : Binary64 → Option Dyadic
  | .finite x => some x
  | .negativeZero => some 0
  | .infinite _ => none
  | .nan => none

end Binary64

/-- Integers from here on round to infinity. -/
def binary64Bound : Nat :=
  Nat.pow 2 1024 - Nat.pow 2 970

/-- The integer that a dyadic rational is, if it is one. -/
def integer? : Dyadic → Option Int
  | .zero => some 0
  | .ofOdd n k _ => if k ≤ 0 then some (n * scaleUp 1 (-k)) else none

end BlockSketch

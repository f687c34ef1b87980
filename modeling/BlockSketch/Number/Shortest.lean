/-
**The shortest decimal of a number.**

A number that is not an integer is written with the fewest digits that read back as the same
binary64 value; of two such decimals the nearer one is taken, and of two equally near ones the one
with the even last digit.

All reals between the midpoints to the two neighbours of a value round to it, the midpoints
included if the value's multiple of its grid is even.  For each number of digits, the decimals
next to the value are compared with this interval in exact arithmetic.

Main definitions:

* `BlockSketch.Magnitude` — a positive number as a multiple of its grid;
* `BlockSketch.Decimal` — digits with a decimal exponent;
* `BlockSketch.Magnitude.shortest` — the shortest decimal of a magnitude;
* `BlockSketch.Decimal.text` — its layout: positional from `0.0001` up to sixteen digits before the
  point, with an exponent otherwise;
* `BlockSketch.Binary64.text`, `BlockSketch.numberText` — the text of a value.
-/

import BlockSketch.Number.Binary64

set_option relaxedAutoImplicit false
set_option autoImplicit false

namespace BlockSketch

/-- The positive number `mantissa * 2 ^ exponent`, a multiple of the grid at its size. -/
structure Magnitude where
  mantissa : Nat
  exponent : Int
  deriving DecidableEq

/-- The number `digits * 10 ^ exponent`. -/
structure Decimal where
  digits : Nat
  exponent : Int
  deriving DecidableEq

namespace Magnitude

/-- The absolute value of a dyadic rational. -/
def ofDyadic : Dyadic → Magnitude
  | .zero => ⟨0, 0⟩
  | .ofOdd n k _ =>
    let num := scaleUp n.natAbs (-k)
    let den := scaleUp 1 k
    let (m, e) := roundToGrid num den
    ⟨m, e⟩

/-- A quarter of the grid's unit divides the value and both midpoints: the value in quarters. -/
def quarters (x : Magnitude) : Nat :=
  4 * x.mantissa

/-- The lower end of the interval, in quarters.  Below a power of two the grid is twice as fine. -/
def lowQuarters (x : Magnitude) : Nat :=
  if x.mantissa = Nat.pow 2 52 ∧ -1074 < x.exponent then 4 * x.mantissa - 1 else 4 * x.mantissa - 2

/-- The upper end of the interval, in quarters. -/
def highQuarters (x : Magnitude) : Nat :=
  4 * x.mantissa + 2

/-- The greatest `e` with `10 ^ e ≤ x`, by an estimate from the binary logarithm. -/
def decimalExponent (x : Magnitude) : Int :=
  let num := scaleUp x.mantissa x.exponent
  let den := scaleUp 1 (-x.exponent)
  let e := Int.fdiv (floorLog2 num den * 30103) 100000
  let reaches (k : Int) : Bool := scaleTens den k ≤ scaleTens num (-k)
  if reaches (e + 1) then e + 1 else if reaches e then e else e - 1

/-- The decimal of the grid `10 ^ e` that stands for `x`, if one of the two next to it lies in the
interval of `x`. -/
def candidate? (x : Magnitude) (e : Int) : Option Decimal :=
  -- the grid point `d` in quarters is `d * unit / den`, a number of quarters `q` is `q * den / den`
  let unit := scaleTens 4 e * scaleUp 1 (-x.exponent)
  let den := scaleTens (scaleUp 1 x.exponent) (-e)
  let d := x.quarters * den / unit
  let even := x.mantissa % 2 = 0
  let lowIn := if even then x.lowQuarters * den ≤ d * unit else x.lowQuarters * den < d * unit
  let highIn :=
    if even then (d + 1) * unit ≤ x.highQuarters * den else (d + 1) * unit < x.highQuarters * den
  let below := x.quarters * den - d * unit
  let above := (d + 1) * unit - x.quarters * den
  if lowIn ∧ d ≠ 0 then
    if highIn then
      if below < above then some ⟨d, e⟩
      else if above < below then some ⟨d + 1, e⟩
      else some ⟨if d % 2 = 0 then d else d + 1, e⟩
    else some ⟨d, e⟩
  else if highIn then some ⟨d + 1, e⟩
  else none

/-- The first of the next `tries` finer grids with a decimal for `x`. -/
def firstCandidate (x : Magnitude) : (tries : Nat) → Int → Decimal
  | 0, e => ⟨0, e⟩
  | tries + 1, e =>
    match x.candidate? e with
    | some d => d
    | none => x.firstCandidate tries (e - 1)

/-- The shortest decimal that reads back as `x`.  Seventeen digits are always enough. -/
def shortest (x : Magnitude) : Decimal :=
  x.firstCandidate 17 x.decimalExponent

end Magnitude

namespace Decimal

/-- The digits of a natural number. -/
def digitChars (n : Nat) : List Char :=
  Nat.toDigits 10 n

/-- Digits and decimal point: the value is `0.digits` times ten to the power of the second part.
Zeros at the end are dropped. -/
def pointed (d : Decimal) : List Char × Int :=
  let cs := digitChars d.digits
  ((cs.reverse.dropWhile (· == '0')).reverse, d.exponent + cs.length)

/-- An exponent with its sign and at least two digits. -/
def exponentChars (e : Int) : List Char :=
  let ds := digitChars e.natAbs
  ['e', if e < 0 then '-' else '+'] ++ (if ds.length < 2 then '0' :: ds else ds)

/-- The text of a positive decimal.  Exponents from -4 to 15 are written positionally. -/
def text (d : Decimal) : List Char :=
  let (ds, point) := d.pointed
  if -4 < point ∧ point ≤ 16 then
    if point ≤ 0 then ['0', '.'] ++ List.replicate (-point).toNat '0' ++ ds
    else if (ds.length : Int) ≤ point then
      ds ++ List.replicate (point - ds.length).toNat '0' ++ ['.', '0']
    else ds.take point.toNat ++ ['.'] ++ ds.drop point.toNat
  else
    match ds with
    | [] => ['0', '.', '0']
    | [c] => c :: exponentChars (point - 1)
    | c :: cs => c :: '.' :: cs ++ exponentChars (point - 1)

end Decimal

/-- The text of a dyadic rational as a number with a point or an exponent. -/
def dyadicChars (x : Dyadic) : List Char :=
  match x with
  | .zero => ['0', '.', '0']
  | .ofOdd n _ _ =>
    (if n < 0 then ['-'] else []) ++ (Magnitude.ofDyadic x).shortest.text

/-- The text of a value; a finite one always has a point or an exponent. -/
def Binary64.text : Binary64 → String
  | .finite x => String.ofList (dyadicChars x)
  | .negativeZero => "-0.0"
  | .infinite negative => if negative then "-inf" else "inf"
  | .nan => "nan"

/-- The text of an integer. -/
def integerText (n : Int) : String :=
  String.ofList ((if n < 0 then ['-'] else []) ++ Decimal.digitChars n.natAbs)

/-- The text of a number: integers without a point, all others in shortest form. -/
def numberText (x : Dyadic) : String :=
  match integer? x with
  | some n => integerText n
  | none => String.ofList (dyadicChars x)

end BlockSketch

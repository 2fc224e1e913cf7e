import TenantAuth.Text.Decimal

/-!
# Binary floating point

Finite 64-bit floating-point numbers as exact values `± mantissa * 2 ^ exponent`, with the
operations that reading and writing JSON numbers takes: rounding a quotient to the nearest number,
a half going to the even mantissa, and the shortest decimal digits that read back.
-/
namespace TenantAuth.Json

/-- A finite binary floating-point number, `± mantissa * 2 ^ exponent`. -/
structure Binary64 where
  negative : Bool
  mantissa : Nat
  exponent : Int
  deriving DecidableEq, Repr

namespace Binary64

/-- Least exponent, that of the subnormal numbers. -/
def minExponent : Int := -1074

/-- Greatest exponent of a finite number. -/
def maxExponent : Int := 971

/-- Least mantissa of a number that is not subnormal: 53 bits. -/
def leastMantissa : Nat := 0x10000000000000

/-- The power of ten with the given exponent. -/
def tenTo (k : Nat) : Nat := Nat.pow 10 k

/-- Zero of the given sign. -/
def zero (negative : Bool) : Binary64 := ⟨negative, 0, minExponent⟩

/-- `num / den` as a numerator and a denominator, scaled by `2 ^ (-e)`. -/
def scaled (num den : Nat) (e : Int) : Nat × Nat :=
  if e ≤ 0 then (num <<< (-e).toNat, den) else (num, den <<< e.toNat)

/-- `num / den` rounded to the nearest integer, a half to the even one. -/
def roundHalfEven (num den : Nat) : Nat :=
  let q := num / den
  let r := 2 * (num % den)
  if r < den then q else if den < r then q + 1 else q + q % 2

/-- The exponent at which `num / den` has 53 bits before the point, or the least one. -/
def exponentOf (num den : Nat) : Int :=
  let e : Int := (Nat.log2 num : Int) - Nat.log2 den - 52
  let (n, d) := scaled num den e
  let e := if n / d < leastMantissa then e - 1 else e
  max e minExponent

/-- The number nearest to `num / den`, a half going to the even mantissa; `none` on overflow. -/
def ofRatio (num den : Nat) : Option Binary64 :=
  if num = 0 then some (zero false)
  else
    let e := exponentOf num den
    let (n, d) := scaled num den e
    let m := roundHalfEven n d
    let x : Binary64 :=
      if m = 2 * leastMantissa then ⟨false, leastMantissa, e + 1⟩ else ⟨false, m, e⟩
    if x.exponent ≤ maxExponent then some x else none

/-- The size of the number as a fraction. -/
def ratio (x : Binary64) : Nat × Nat :=
  if x.exponent ≤ 0 then (x.mantissa, 1 <<< (-x.exponent).toNat)
  else (x.mantissa <<< x.exponent.toNat, 1)

/-- The place of two numbers on the line; the two zeros are at one place. -/
def compare (x y : Binary64) : Ordering :=
  let signed (x : Binary64) (n : Nat) : Int := if x.negative then -(n : Int) else n
  Ord.compare (signed x (x.ratio.1 * y.ratio.2)) (signed y (y.ratio.1 * x.ratio.2))

/-- The size of the product of two numbers, rounded. -/
def mul (x y : Binary64) : Option Binary64 :=
  ofRatio (x.ratio.1 * y.ratio.1) (x.ratio.2 * y.ratio.2)

/-- The size of the quotient of two numbers, rounded; the divisor is not zero. -/
def div (x y : Binary64) : Option Binary64 :=
  ofRatio (x.ratio.1 * y.ratio.2) (x.ratio.2 * y.ratio.1)

/-- The number nearest to `10 ^ k`, for `k ≤ 308`. -/
def powerOfTen (k : Nat) : Binary64 := (ofRatio (tenTo k) 1).getD (zero false)

/--
The number for `significand * 10 ^ exponent`: the significand is rounded first, then multiplied or
divided by a power of ten, in steps of `10 ^ 308`; `none` on overflow.
-/
def ofDecimal (significand : Nat) (exponent : Int) : Option Binary64 :=
  match ofRatio significand 1 with
  | none => none
  | some x => scale 4 x exponent
where
  scale : Nat → Binary64 → Int → Option Binary64
    | 0, x, _ => some x
    | steps + 1, x, e =>
      if e.natAbs ≤ 308 then
        if 0 ≤ e then x.mul (powerOfTen e.natAbs) else x.div (powerOfTen e.natAbs)
      else if x.mantissa = 0 then some x
      else if 0 ≤ e then none
      else
        match x.div (powerOfTen 308) with
        | none => none
        | some y => scale steps y (e + 308)

/-- The number is zero, of either sign. -/
def isZero (x : Binary64) : Bool := x.mantissa = 0

/-- Twice the number and twice the bounds of the interval that rounds to it, in units of
`2 ^ (exponent - 2)`. -/
def bounds (x : Binary64) : Nat × Nat × Nat :=
  let below := if x.mantissa = leastMantissa ∧ minExponent < x.exponent then 1 else 2
  (4 * x.mantissa - below, 4 * x.mantissa, 4 * x.mantissa + 2)

/--
The fewest digits `d` and the exponent `k` such that `d * 10 ^ k` rounds to the positive number
`x`; of several, the nearest, and of two equally near the even one.
-/
def shortest (x : Binary64) : Nat × Int :=
  let (lo, mid, hi) := x.bounds
  let unit : Nat × Nat := if 2 ≤ x.exponent then (1 <<< (x.exponent - 2).toNat, 1)
    else (1, 1 <<< (2 - x.exponent).toNat)
  let magnitude : Int := decimalExponent (mid * unit.1) unit.2
  search 17 lo mid hi unit (x.mantissa % 2 == 0) magnitude
where
  /-- The `k` with `10 ^ k ≤ num / den < 10 ^ (k + 1)`. -/
  decimalExponent (num den : Nat) : Int :=
    let l : Int := (Nat.log2 num : Int) - Nat.log2 den
    let guess : Int := l * 30103 / 100000
    let above (k : Int) : Bool :=
      if 0 ≤ k then den * tenTo k.toNat ≤ num else den ≤ num * tenTo (-k).toNat
    if above (guess + 1) then guess + 1 else if above guess then guess else guess - 1
  /-- Tries one more digit while no decimal with so many digits lies in the interval. -/
  search (more : Nat) (lo mid hi : Nat) (unit : Nat × Nat) (closed : Bool) (magnitude : Int) :
      Nat × Int :=
    let k : Int := magnitude - (17 - more : Nat)
    -- `10 ^ k` as a fraction
    let (g, h) : Nat × Nat := if 0 ≤ k then (tenTo k.toNat, 1) else (1, tenTo (-k).toNat)
    let d := (mid * unit.1 * h) / (unit.2 * g)
    let inside (d : Nat) : Bool :=
      let l := lo * unit.1 * h
      let u := hi * unit.1 * h
      let v := d * g * unit.2
      if closed then l ≤ v && v ≤ u else l < v && v < u
    let exact := mid * unit.1 * h
    let distance (d : Nat) : Nat := max (d * g * unit.2) exact - min (d * g * unit.2) exact
    match inside d && d != 0, inside (d + 1) with
    | true, true =>
      if distance d < distance (d + 1) then (d, k)
      else if distance (d + 1) < distance d then (d + 1, k)
      else (d + d % 2, k)
    | true, false => (d, k)
    | false, true => (d + 1, k)
    | false, false =>
      match more with
      | 0 => (d, k)
      | more + 1 => search more lo mid hi unit closed magnitude

/-- Digits without trailing zeros, which go to the exponent. -/
def stripZeros : Nat → Nat → Int → Nat × Int
  | 0, d, k => (d, k)
  | fuel + 1, d, k => if d ≠ 0 ∧ d % 10 = 0 then stripZeros fuel (d / 10) (k + 1) else (d, k)

/--
The number as JSON text: the fewest digits that read back, positional from `1e-5` up to `1e16`
with `.0` after an integer, else with an exponent that bears its sign.
-/
def text (x : Binary64) : Bytes :=
  let zeros (n : Nat) : Bytes := List.replicate n 0x30
  let body : Bytes :=
    if x.isZero then [0x30, 0x2E, 0x30]
    else
      let (d, k) := x.shortest
      let (d, k) := stripZeros 17 d k
      let ds := Text.Decimal.ofNat d
      let n := ds.length
      -- position of the point after the first digit
      let point : Int := n + k
      if 0 ≤ k ∧ point ≤ 16 then ds ++ zeros k.toNat ++ [0x2E, 0x30]
      else if 0 < point ∧ point ≤ 16 then ds.take point.toNat ++ 0x2E :: ds.drop point.toNat
      else if -5 < point ∧ point ≤ 0 then 0x30 :: 0x2E :: zeros (-point).toNat ++ ds
      else
        let mantissa := if n = 1 then ds else ds.take 1 ++ 0x2E :: ds.drop 1
        let sign : Bytes := if 0 < point then [0x2B] else []
        mantissa ++ 0x65 :: sign ++ Text.Decimal.ofInt (point - 1)
  if x.negative then 0x2D :: body else body

end Binary64

end TenantAuth.Json

import TenantAuth.Hash.Sha256

/-!
# Curves

Points of the elliptic curves of signing keys, with coordinates in a prime field. A public key is a
multiple of the base point of its curve.
-/
namespace TenantAuth

/-- The power `b ^ e` in the field of a prime. -/
def powMod (p b e : Nat) : Nat :=
  if e = 0 then 1 % p
  else
    let half := powMod p (b * b % p) (e / 2)
    if e % 2 = 0 then half else half * b % p
  termination_by e

/-- The inverse in the field of a prime, zero for zero. -/
def invMod (p a : Nat) : Nat := powMod p a (p - 2)

/-- The difference of numbers below the prime of a field. -/
def subMod (p a b : Nat) : Nat := (a + (p - b)) % p

/-- The sum of `n` copies of a point, by doubling. -/
def multiple (zero : α) (add : α → α → α) (n : Nat) (a : α) : α :=
  if n = 0 then zero
  else
    let rest := multiple zero add (n / 2) (add a a)
    if n % 2 = 0 then rest else add a rest
  termination_by n

/-! ## Curves in Weierstrass form -/

/-- A curve `y² = x³ - 3x + b` with its base point, the order of that point, and the length of a
coordinate in bytes. -/
structure Weierstrass where
  prime : Nat
  order : Nat
  baseX : Nat
  baseY : Nat
  size : Nat

namespace Weierstrass

/-- The curve with coordinates of 256 bits. -/
def p256 : Weierstrass where
  prime := 0xffffffff00000001000000000000000000000000ffffffffffffffffffffffff
  order := 0xffffffff00000000ffffffffffffffffbce6faada7179e84f3b9cac2fc632551
  baseX := 0x6b17d1f2e12c4247f8bce6e563a440f277037d812deb33a0f4a13945d898c296
  baseY := 0x4fe342e2fe1a7f9b8ee7eb4a7c0f9e162bce33576b315ececbb6406837bf51f5
  size := 32

/-- The curve with coordinates of 384 bits. -/
def p384 : Weierstrass where
  prime :=
  0xfffffffffffffffffffffffffffffffffffffffffffffffffffffffffffffffeffffffff0000000000000000ffffffff
  order :=
  0xffffffffffffffffffffffffffffffffffffffffffffffffc7634d81f4372ddf581a0db248b0a77aecec196accc52973
  baseX :=
  0xaa87ca22be8b05378eb1c71ef320ad746e1d3b628ba79b9859f741e082542a385502f25dbf55296c3a545e3872760ab7
  baseY :=
  0x3617de4a96262c6f5d9e98bf9292dc29f8f41dbd289a147ce9da3113b5f0b8c00a60b1ce1d7e819d7a431d7c90ea0e5f
  size := 48

/-- A point: its coordinates, or none for the point at infinity. -/
abbrev Point := Option (Nat × Nat)

/-- The third point of the line with the given slope through two points, mirrored. -/
def third (c : Weierstrass) (slope x₁ y₁ x₂ : Nat) : Point :=
  let p := c.prime
  let x := subMod p (subMod p (slope * slope % p) x₁) x₂
  some (x, subMod p (slope * subMod p x₁ x % p) y₁)

/-- The sum of two points. -/
def add (c : Weierstrass) : Point → Point → Point
  | none, q => q
  | q, none => q
  | some (x₁, y₁), some (x₂, y₂) =>
    let p := c.prime
    if x₁ = x₂ then
      if (y₁ + y₂) % p = 0 then none
      else
        let slope := (3 * x₁ * x₁ + (p - 3)) * invMod p (2 * y₁ % p) % p
        c.third slope x₁ y₁ x₂
    else
      let slope := subMod p y₂ y₁ * invMod p (subMod p x₂ x₁) % p
      c.third slope x₁ y₁ x₂

/-- The public point of a secret number. -/
def publicPoint (c : Weierstrass) (secret : Nat) : Point :=
  multiple none c.add secret (some (c.baseX, c.baseY))

/-- A point as bytes: the number four and both coordinates; none for the point at infinity. -/
def pointBytes? (c : Weierstrass) : Point → Option Bytes
  | none => none
  | some (x, y) => some (4 :: Sha256.bigEndian c.size x ++ Sha256.bigEndian c.size y)

end Weierstrass

/-! ## The curve in Edwards form -/

namespace Edwards

/-- The prime of the field: the power of two with the exponent 255, less 19. -/
def prime : Nat := 0x7fffffffffffffffffffffffffffffffffffffffffffffffffffffffffffffed

/-- The constant `d` of the curve `y² - x² = 1 + d x² y²`. -/
def d : Nat := 0x52036cee2b6ffe738cc740797779e89800700a4d4141d8ab75eb4dca135978a3

/-- A point of the curve. -/
abbrev Point := Nat × Nat

/-- The base point. -/
def base : Point :=
  (0x216936d3cd6e53fec0a4e231fdd6dc5c692cc7609525a7b2c9562d608f25d51a,
    0x6666666666666666666666666666666666666666666666666666666666666658)

/-- The sum of two points. -/
def add : Point → Point → Point
  | (x₁, y₁), (x₂, y₂) =>
    let p := prime
    let t := d * (x₁ * x₂ % p) % p * (y₁ * y₂ % p) % p
    ((x₁ * y₂ + x₂ * y₁) * invMod p ((1 + t) % p) % p,
      (y₁ * y₂ + x₁ * x₂) * invMod p (subMod p 1 t) % p)

/-- A point in 32 bytes, the least first: the second coordinate, and in its highest bit whether the
first one is odd. -/
def pointBytes : Point → Bytes
  | (x, y) => (Sha256.bigEndian 32 (y + (x % 2) <<< 255)).reverse

/-- The public point of a secret number. -/
def publicPoint (secret : Nat) : Point := multiple (0, 1) add secret base

end Edwards

end TenantAuth

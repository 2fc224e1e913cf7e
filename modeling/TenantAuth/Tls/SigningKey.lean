import TenantAuth.Tls.Pem
import TenantAuth.Tls.Der
import TenantAuth.Tls.Curve
import TenantAuth.Hash.Sha512

/-!
# Signing keys

Private keys of the kinds that sections hold, what makes them usable for signing, and the public
key that belongs to one, in the form in which a certificate holds it.
-/
namespace TenantAuth

/-- The form of a private key. -/
inductive KeyForm where
  | pkcs8
  | pkcs1
  | sec1
  deriving DecidableEq

/-- A private key as it stands in a file. -/
structure PrivateKey where
  form : KeyForm
  der : Bytes
  deriving DecidableEq

/-- The form of the key that a section with a label holds. -/
def KeyForm.ofLabel? : Pem.Label → Option KeyForm
  | .privateKey => some .pkcs8
  | .rsaPrivateKey => some .pkcs1
  | .ecPrivateKey => some .sec1
  | _ => none

/-- The numbers of an RSA key. -/
structure RsaNumbers where
  modulus : Nat
  publicExponent : Nat
  privateExponent : Nat
  firstPrime : Nat
  secondPrime : Nat
  firstExponent : Nat
  secondExponent : Nat
  coefficient : Nat

namespace RsaNumbers

/-- How many bits a number has. -/
def bitLength (n : Nat) : Nat := if n = 0 then 0 else n.log2 + 1

/-- A factor of a modulus of `bits` bits: odd, of half the length, in steps of 512 bits. -/
def isFactor (bits p : Nat) : Bool :=
  p % 2 = 1 && bitLength p = (bits + 1) / 2 && bitLength p % 512 = 0

/-- An exponent for a factor: odd and below it. -/
def isExponent (p e : Nat) : Bool := e % 2 = 1 && e < p

/-- The coefficient is the inverse of the second factor modulo the first, whichever is greater. -/
def coefficientFits (k : RsaNumbers) : Bool :=
  k.coefficient < k.firstPrime && k.coefficient * k.secondPrime % k.firstPrime = 1

/-- The numbers fit together: the modulus has 2048 to 4096 bits, the public exponent 17 to 33. -/
def consistent (k : RsaNumbers) : Bool :=
  let bits := bitLength k.modulus
  k.modulus % 2 = 1 && 2048 ≤ (bits + 7) / 8 * 8 && bits ≤ 4096 &&
  k.publicExponent % 2 = 1 && 65537 ≤ k.publicExponent && k.publicExponent < 0x200000000 &&
  isFactor bits k.firstPrime && isFactor bits k.secondPrime &&
  k.firstPrime * k.secondPrime % k.modulus = 0 &&
  (bits + 1) / 2 < bitLength k.privateExponent && isExponent k.modulus k.privateExponent &&
  isExponent k.firstPrime k.firstExponent && isExponent k.secondPrime k.secondExponent &&
  k.coefficientFits

end RsaNumbers

/-- A key that can sign, by what is public about it. -/
inductive SigningKey where
  | rsa (modulus publicExponent : Bytes)
  | ecdsa (curve : Bytes) (point : Bytes)
  | ed25519 (point : Bytes)
  deriving DecidableEq

namespace SigningKey

open Der

/-- The identifier of RSA, without parameters. -/
def rsaAlgorithm : Bytes :=
  [0x06, 0x09, 0x2A, 0x86, 0x48, 0x86, 0xF7, 0x0D, 0x01, 0x01, 0x01, 0x05, 0x00]

/-- The identifier of keys on elliptic curves. -/
def curveAlgorithm : Bytes := [0x06, 0x07, 0x2A, 0x86, 0x48, 0xCE, 0x3D, 0x02, 0x01]

/-- The identifier of the curve `p256`. -/
def p256Id : Bytes := [0x06, 0x08, 0x2A, 0x86, 0x48, 0xCE, 0x3D, 0x03, 0x01, 0x07]

/-- The identifier of the curve `p384`. -/
def p384Id : Bytes := [0x06, 0x05, 0x2B, 0x81, 0x04, 0x00, 0x22]

/-- The identifier of Ed25519. -/
def edwardsAlgorithm : Bytes := [0x06, 0x03, 0x2B, 0x65, 0x70]

/-- The key in an envelope for the given algorithm, and the public key, which the second version of
the envelope has. -/
def unwrapped (algorithm : Bytes) (second : Bool) (der : Bytes) :
    Except Unit (Bytes × Option Bytes) :=
  whole () (nested () .sequence do
    let version ← small ()
    if (← element () .sequence) ≠ algorithm then throw ()
    if !(version = 0 || (version = 1 && second)) then throw ()
    let key ← element () .octetString
    if ← next (.constructed 0) then
      let _attributes ← element () (.constructed 0)
    if version = 1 then
      if ← next (.constructed 1) then
        return (key, some (← nested () (.constructed 1) (bits () .bitString)))
      return (key, some (← bits () (.primitive 1)))
    return (key, none)) der

/-- The RSA key of the given form. -/
def rsaOfDer (der : Bytes) : Except Unit SigningKey :=
  whole () (nested () .sequence do
    if (← small ()) ≠ 0 then throw ()
    let modulus ← magnitude ()
    let publicExponent ← magnitude ()
    let numbers : RsaNumbers :=
      { modulus := number modulus, publicExponent := number publicExponent
        privateExponent := ← natural (), firstPrime := ← natural (), secondPrime := ← natural ()
        firstExponent := ← natural (), secondExponent := ← natural (), coefficient := ← natural () }
    if numbers.consistent then return .rsa modulus publicExponent else throw ()) der

/-- A key on a curve with the given identifier: the public point has to be there and to belong to
the secret number. -/
def ecdsaOfDer (id : Bytes) (c : Weierstrass) (der : Bytes) : Except Unit SigningKey :=
  whole () (nested () .sequence do
    if (← small ()) ≠ 1 then throw ()
    let secret ← element () .octetString
    if ← next (.constructed 0) then
      if (← element () (.constructed 0)) ≠ id then throw ()
    let point ← nested () (.constructed 1) (bits () .bitString)
    let n := number secret
    if secret.length = c.size && 0 < n && n < c.order &&
      c.pointBytes? (c.publicPoint n) = some point
    then return .ecdsa id point
    else throw ()) der

/-- The secret number of an Ed25519 seed: half of its hash, with some bits fixed. -/
def edwardsSecret (seed : Bytes) : Nat :=
  let n := number ((Sha512.digest seed).take 32).reverse
  let top := 1 <<< 254
  n % top / 8 * 8 + top

/-- An Ed25519 key in an envelope; if the public key is there, it has to belong to the seed. -/
def ed25519OfDer (der : Bytes) : Except Unit SigningKey := do
  let (key, point?) ← unwrapped edwardsAlgorithm true der
  let seed ← whole () (element () .octetString) key
  if seed.length ≠ 32 then throw ()
  let point := Edwards.pointBytes (Edwards.publicPoint (edwardsSecret seed))
  if point?.all (· = point) then return .ed25519 point else throw ()

/-- The attempts to read a private key, one for each kind of key that its form can hold. -/
def attempts (k : PrivateKey) : List (Unit → Except Unit SigningKey) :=
  match k.form with
  | .pkcs1 => [fun _ => rsaOfDer k.der]
  | .sec1 => [fun _ => ecdsaOfDer p256Id .p256 k.der, fun _ => ecdsaOfDer p384Id .p384 k.der]
  | .pkcs8 => [
      fun _ => do rsaOfDer (← unwrapped rsaAlgorithm false k.der).1,
      fun _ => do ecdsaOfDer p256Id .p256 (← unwrapped (curveAlgorithm ++ p256Id) false k.der).1,
      fun _ => do ecdsaOfDer p384Id .p384 (← unwrapped (curveAlgorithm ++ p384Id) false k.der).1,
      fun _ => ed25519OfDer k.der]

/-- The signing key of a private key. -/
def ofPrivateKey? (k : PrivateKey) : Option SigningKey :=
  (attempts k).findSome? fun read => (read ()).toOption

/-- The public key as the content of the element by which a certificate names it. -/
def publicKeyInfo : SigningKey → Bytes
  | .rsa modulus publicExponent =>
    info rsaAlgorithm (write .sequence (writeMagnitude modulus ++ writeMagnitude publicExponent))
  | .ecdsa curve point => info (curveAlgorithm ++ curve) point
  | .ed25519 point => info edwardsAlgorithm point
where
  /-- An algorithm and a key for it. -/
  info (algorithm key : Bytes) : Bytes :=
    write .sequence algorithm ++ write .bitString (0 :: key)

end SigningKey

end TenantAuth

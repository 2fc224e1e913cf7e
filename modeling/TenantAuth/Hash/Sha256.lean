import TenantAuth.Text.Utf8

/-!
# SHA-256

The hash of FIPS 180-4 on byte lists: eight words of state, 64 rounds a block, big-endian words.
-/
namespace TenantAuth.Sha256

/-- Rotation to the right. -/
def rotr (x : UInt32) (n : UInt32) : UInt32 := (x >>> n) ||| (x <<< (32 - n))

/-- The round constants: the first 32 bits of the fractions of the cube roots of 64 primes. -/
def constants : Array UInt32 := #[
    0x428a2f98, 0x71374491, 0xb5c0fbcf, 0xe9b5dba5, 0x3956c25b, 0x59f111f1,
    0x923f82a4, 0xab1c5ed5, 0xd807aa98, 0x12835b01, 0x243185be, 0x550c7dc3,
    0x72be5d74, 0x80deb1fe, 0x9bdc06a7, 0xc19bf174, 0xe49b69c1, 0xefbe4786,
    0x0fc19dc6, 0x240ca1cc, 0x2de92c6f, 0x4a7484aa, 0x5cb0a9dc, 0x76f988da,
    0x983e5152, 0xa831c66d, 0xb00327c8, 0xbf597fc7, 0xc6e00bf3, 0xd5a79147,
    0x06ca6351, 0x14292967, 0x27b70a85, 0x2e1b2138, 0x4d2c6dfc, 0x53380d13,
    0x650a7354, 0x766a0abb, 0x81c2c92e, 0x92722c85, 0xa2bfe8a1, 0xa81a664b,
    0xc24b8b70, 0xc76c51a3, 0xd192e819, 0xd6990624, 0xf40e3585, 0x106aa070,
    0x19a4c116, 0x1e376c08, 0x2748774c, 0x34b0bcb5, 0x391c0cb3, 0x4ed8aa4a,
    0x5b9cca4f, 0x682e6ff3, 0x748f82ee, 0x78a5636f, 0x84c87814, 0x8cc70208,
    0x90befffa, 0xa4506ceb, 0xbef9a3f7, 0xc67178f2]

/-- The chaining state. -/
structure State where
  a : UInt32
  b : UInt32
  c : UInt32
  d : UInt32
  e : UInt32
  f : UInt32
  g : UInt32
  h : UInt32

/-- The state before the first block. -/
def State.initial : State :=
  ⟨0x6a09e667, 0xbb67ae85, 0x3c6ef372, 0xa54ff53a, 0x510e527f, 0x9b05688c, 0x1f83d9ab, 0x5be0cd19⟩

/-- Wordwise sum. -/
def State.add (s t : State) : State :=
  ⟨s.a + t.a, s.b + t.b, s.c + t.c, s.d + t.d, s.e + t.e, s.f + t.f, s.g + t.g, s.h + t.h⟩

/-- One round with the sum of a round constant and a schedule word. -/
def State.round (s : State) (kw : UInt32) : State :=
  let e₁ := rotr s.e 6 ^^^ rotr s.e 11 ^^^ rotr s.e 25
  let choice := (s.e &&& s.f) ^^^ (~~~s.e &&& s.g)
  let t := s.h + e₁ + choice + kw
  let a₁ := rotr s.a 2 ^^^ rotr s.a 13 ^^^ rotr s.a 22
  let majority := (s.a &&& s.b) ^^^ (s.a &&& s.c) ^^^ (s.b &&& s.c)
  ⟨t + a₁ + majority, s.a, s.b, s.c, s.d + t, s.e, s.f, s.g⟩

/-- The big-endian word of four bytes. -/
def word (x y z w : UInt8) : UInt32 :=
  (x.toUInt32 <<< 24) ||| (y.toUInt32 <<< 16) ||| (z.toUInt32 <<< 8) ||| w.toUInt32

/-- The bytes of a word, the greatest first. -/
def wordBytes (w : UInt32) : Bytes :=
  [(w >>> 24).toUInt8, (w >>> 16).toUInt8, (w >>> 8).toUInt8, w.toUInt8]

/-- The bytes of a state. -/
def State.bytes (s : State) : Bytes :=
  [s.a, s.b, s.c, s.d, s.e, s.f, s.g, s.h].flatMap wordBytes

/-- The words of a block. -/
def words : Bytes → List UInt32
  | x :: y :: z :: w :: rest => word x y z w :: words rest
  | _ => []

/-- The next word of the schedule after `ws`. -/
def scheduleStep (ws : Array UInt32) : Array UInt32 :=
  let n := ws.size
  let x := ws.getD (n - 15) 0
  let y := ws.getD (n - 2) 0
  let s₀ := rotr x 7 ^^^ rotr x 18 ^^^ (x >>> 3)
  let s₁ := rotr y 17 ^^^ rotr y 19 ^^^ (y >>> 10)
  ws.push (ws.getD (n - 16) 0 + s₀ + ws.getD (n - 7) 0 + s₁)

/-- The sixty-four words of the schedule of a block. -/
def schedule (block : Bytes) : Array UInt32 :=
  Nat.repeat scheduleStep 48 (words block).toArray

/-- The state after a block. -/
def compress (s : State) (block : Bytes) : State :=
  s.add ((Array.zipWith (· + ·) constants (schedule block)).foldl State.round s)

/-- The bytes of `n` as `k` bytes, the greatest first. -/
def bigEndian (k n : Nat) : Bytes :=
  (List.range k).reverse.map fun i => UInt8.ofNat (n >>> (8 * i))

/-- The message with a one bit, zeros, and its length in bits, in full blocks. -/
def padded (message : Bytes) : Bytes :=
  let zeros := (55 + 64 - message.length % 64) % 64
  message ++ 0x80 :: List.replicate zeros 0 ++ bigEndian 8 (8 * message.length)

/-- The state after all full blocks of `message`. -/
def absorb (s : State) (message : Bytes) : State :=
  if message.length < 64 then s
  else absorb (compress s (message.take 64)) (message.drop 64)
  termination_by message.length

/-- The 32 bytes of the hash. -/
def digest (message : Bytes) : Bytes := (absorb .initial (padded message)).bytes

/-- The key as a block: hashed if it is longer than one, then filled with zeros. -/
def keyBlock (key : Bytes) : Bytes :=
  let k := if 64 < key.length then digest key else key
  k ++ List.replicate (64 - k.length) 0

/-- The keyed hash HMAC. -/
def hmac (key message : Bytes) : Bytes :=
  let k := keyBlock key
  digest (k.map (· ^^^ 0x5C) ++ digest (k.map (· ^^^ 0x36) ++ message))

end TenantAuth.Sha256

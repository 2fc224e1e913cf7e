import TenantAuth.Text.Utf8

/-!
# Expensive key schedule

The Blowfish cipher with the key schedule of bcrypt: the cipher's words start as the fraction of π,
and each step of the schedule overwrites all of them by encrypting with the words so far.
-/
namespace TenantAuth.Blowfish

/-- `scale * arctan (1 / x)`, summed over `terms` terms of its series, from term `k` on. -/
def arctanSum (x : Nat) : (terms k power : Nat) → Int
  | 0, _, _ => 0
  | terms + 1, k, power =>
    let term : Int := power / (2 * k + 1)
    (if k % 2 = 0 then term else -term) + arctanSum x terms (k + 1) (power / (x * x))

/-- Words of the cipher: 18 for its rounds and four boxes of 256. -/
def wordCount : Nat := 1042

/-- The first bits of the fraction of π, `32 * wordCount` of them. -/
def piFraction : Nat :=
  let guard := 64
  let bits := 32 * wordCount + guard
  let scale := 1 <<< bits
  let sum :=
    16 * arctanSum 5 (bits / 4) 0 (scale / 5) - 4 * arctanSum 239 (bits / 15) 0 (scale / 239)
  (sum.toNat - 3 * scale) >>> guard

/-- The words of the cipher before any key. -/
def initialWords : Array UInt32 :=
  (Array.range wordCount).map fun i =>
    UInt32.ofNat (piFraction >>> (32 * (wordCount - 1 - i)))

/-- The mixing of one half with the four boxes. -/
@[inline] def mix (words : Array UInt32) (x : UInt32) : UInt32 :=
  let a := words.getD (18 + (x >>> 24).toNat) 0
  let b := words.getD (274 + ((x >>> 16) &&& 0xFF).toNat) 0
  let c := words.getD (530 + ((x >>> 8) &&& 0xFF).toNat) 0
  let d := words.getD (786 + (x &&& 0xFF).toNat) 0
  ((a + b) ^^^ c) + d

/-- The last `rounds` of sixteen rounds. -/
def rounds (words : Array UInt32) : (rounds : Nat) → UInt32 → UInt32 → UInt32 × UInt32
  | 0, l, r => (r ^^^ words.getD 17 0, l ^^^ words.getD 16 0)
  | n + 1, l, r =>
    let l := l ^^^ words.getD (15 - n) 0
    rounds words n (r ^^^ mix words l) l

/-- The two halves of a block, encrypted. -/
def encrypt (words : Array UInt32) (l r : UInt32) : UInt32 × UInt32 := rounds words 16 l r

/-- The next 32 bits of a key that is read over and over, from byte `at`. -/
def keyWord (key : ByteArray) (start : Nat) : UInt32 :=
  let byte (i : Nat) : UInt32 := (key.data.getD ((start + i) % key.size) 0).toUInt32
  (byte 0 <<< 24) ||| (byte 1 <<< 16) ||| (byte 2 <<< 8) ||| byte 3

/-- The words with the key mixed into the first eighteen. -/
def mixKey (words : Array UInt32) (key : ByteArray) : Array UInt32 :=
  (List.range 18).foldl (fun ws i => ws.modify i (· ^^^ keyWord key (4 * i))) words

/-- Overwrites the words pair by pair, from the pair `521 - pairs` on, with the encryption of the
pair before, mixed with the salt. -/
def overwrite (salt : Array UInt32) : (pairs : Nat) → Array UInt32 → UInt32 → UInt32 → Array UInt32
  | 0, words, _, _ => words
  | n + 1, words, l, r =>
    let i := 2 * (520 - n)
    let (l, r) := encrypt words (l ^^^ salt.getD (i % 4) 0) (r ^^^ salt.getD ((i + 1) % 4) 0)
    overwrite salt n ((words.set! i l).set! (i + 1) r) l r

/-- One step of the schedule. -/
def expand (salt : Array UInt32) (key : ByteArray) (words : Array UInt32) : Array UInt32 :=
  overwrite salt 521 (mixKey words key) 0 0

/-- The four words of a salt of sixteen bytes. -/
def saltWords (salt : ByteArray) : Array UInt32 :=
  #[keyWord salt 0, keyWord salt 4, keyWord salt 8, keyWord salt 12]

/-- The words after the schedule of `2 ^ cost` double steps. -/
def schedule (cost : Nat) (salt key : ByteArray) : Array UInt32 :=
  Nat.repeat (fun words => expand #[] salt (expand #[] key words)) (1 <<< cost)
    (expand (saltWords salt) key initialWords)

/-- A block encrypted 64 times over. -/
def encryptOften (words : Array UInt32) (block : UInt32 × UInt32) : UInt32 × UInt32 :=
  Nat.repeat (fun b => encrypt words b.1 b.2) 64 block

/-- The three blocks of the text `OrpheanBeholderScryDoubt`. -/
def magicBlocks : List (UInt32 × UInt32) :=
  [(0x4F727068, 0x65616E42), (0x65686F6C, 0x64657253), (0x63727944, 0x6F756274)]

/-- The bytes of a word, the greatest first. -/
def wordBytes (w : UInt32) : Bytes :=
  [(w >>> 24).toUInt8, (w >>> 16).toUInt8, (w >>> 8).toUInt8, w.toUInt8]

/-- The 23 bytes that bcrypt makes of a key under a salt. -/
def digest (cost : Nat) (salt key : Bytes) : Bytes :=
  let words := schedule cost ⟨salt.toArray⟩ ⟨key.toArray⟩
  let text := magicBlocks.flatMap fun block =>
    let (l, r) := encryptOften words block
    wordBytes l ++ wordBytes r
  text.take 23

end TenantAuth.Blowfish

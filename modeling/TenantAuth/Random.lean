import TenantAuth.Text.Utf8

/-!
# Random texts

Texts drawn from an alphabet with a stream of pseudo-random words, which a seed determines.
-/
namespace TenantAuth

/-- The state of a stream of 64-bit words. -/
structure RandomSource where
  state : UInt64

namespace RandomSource

/-- The next word of the stream. -/
def next (s : RandomSource) : UInt64 × RandomSource :=
  let state := s.state + 0x9E3779B97F4A7C15
  let z := (state ^^^ (state >>> 30)) * 0xBF58476D1CE4E5B9
  let z := (z ^^^ (z >>> 27)) * 0x94D049BB133111EB
  (z ^^^ (z >>> 31), ⟨state⟩)

/-- The next `n` words of the stream. -/
def take : Nat → RandomSource → List UInt64 → List UInt64 × RandomSource
  | 0, s, drawn => (drawn, s)
  | n + 1, s, drawn =>
    let (w, s) := s.next
    take n s (w :: drawn)

/-- The next `n` bytes of the stream. -/
def bytes (s : RandomSource) (n : Nat) : Bytes × RandomSource :=
  let (words, s) := take n s []
  (words.map fun (w : UInt64) => (w >>> 56).toUInt8, s)

/-- A text of `n` characters of the alphabet. -/
def text (s : RandomSource) (alphabet : Array Char) (n : Nat) : String × RandomSource :=
  let (words, s) := take n s []
  (String.ofList (words.map fun w => alphabet.getD (w.toNat % alphabet.size) 'A'), s)

/-- Letters and digits. -/
def alphanumerics : Array Char :=
  "ABCDEFGHIJKLMNOPQRSTUVWXYZabcdefghijklmnopqrstuvwxyz0123456789".toList.toArray

/-- Letters, digits, `-` and `_`, which stand for themselves in URLs and header fields. -/
def urlSafe : Array Char :=
  "ABCDEFGHIJKLMNOPQRSTUVWXYZabcdefghijklmnopqrstuvwxyz0123456789-_".toList.toArray

/-- A text of `n` letters and digits. -/
def alphanumeric (s : RandomSource) (n : Nat) : String × RandomSource := s.text alphanumerics n

/-- A text of `n` characters that are safe in URLs. -/
def tokenUrlSafe (s : RandomSource) (n : Nat) : String × RandomSource := s.text urlSafe n

end RandomSource

/-- The version of the library. -/
def version : String := "0.1.0"

end TenantAuth

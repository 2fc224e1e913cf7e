import TenantAuth.Text.Utf8

/-!
# Blanks

The characters with the Unicode property `White_Space`, the trimming of a text at both ends, and its
parts.
-/
namespace TenantAuth.Text

/-- The Unicode property `White_Space`. -/
def isBlank (c : Char) : Bool :=
  let n := c.toNat
  (9 ≤ n && n ≤ 13) || n = 0x20 || n = 0x85 || n = 0xA0 || n = 0x1680 ||
    (0x2000 ≤ n && n ≤ 0x200A) || n = 0x2028 || n = 0x2029 || n = 0x202F || n = 0x205F ||
    n = 0x3000

/-- `cs` without the elements at either end that satisfy `p`. -/
def trimList (p : α → Bool) (cs : List α) : List α :=
  ((cs.dropWhile p).reverse.dropWhile p).reverse

/-- `s` without the blanks at either end. -/
def trim (s : String) : String := String.ofList (trimList isBlank s.toList)

/-- The parts of `s` between the separators `c`. -/
def parts (c : Char) (s : String) : List String := (s.toList.splitOn c).map String.ofList

/-- The ASCII letters of `s` in lower case. -/
def lowerAscii (s : String) : String := String.ofList (s.toList.map Char.toLower)

end TenantAuth.Text

import TenantAuth.Text.Utf8

/-!
# YAML source text

The characters a YAML stream may hold, and the classes that its tokens are told apart by. Line
breaks of all platforms are one character here: `unifyBreaks` replaces the others.
-/
namespace TenantAuth.Yaml

/-- The character may stand in a stream. -/
def isAllowed (c : Char) : Bool :=
  let n := c.toNat
  n = 0x09 || n = 0x0A || n = 0x0D || (0x20 ≤ n && n ≤ 0x7E) || n = 0x85 ||
    (0xA0 ≤ n && n ≤ 0xD7FF) || (0xE000 ≤ n && n ≤ 0xFFFD) || 0x10000 ≤ n

/-- The text with each carriage return, pair of carriage return and line feed, and next-line
character as a line feed. -/
def unifyBreaks : List Char → List Char
  | '\r' :: '\n' :: rest => '\n' :: unifyBreaks rest
  | c :: rest => (if c = '\r' || c.toNat = 0x85 then '\n' else c) :: unifyBreaks rest
  | [] => []

/-- A line break: a line feed, or one of the two separators. -/
def isBreak (c : Char) : Bool := c = '\n' || c.toNat = 0x2028 || c.toNat = 0x2029

/-- A space or a tab. -/
def isBlank (c : Char) : Bool := c = ' ' || c = '\t'

/-- A blank or a line break. -/
def isSpace (c : Char) : Bool := isBlank c || isBreak c

/-- A character of a name. -/
def isNameChar (c : Char) : Bool := c.isAlphanum || c = '_' || c = '-'

/-- The byte order mark. -/
def isByteOrderMark (c : Char) : Bool := c.toNat = 0xFEFF

/-- The value of a hexadecimal digit. -/
def hexValue? (c : Char) : Option Nat :=
  if c.isDigit then some (c.toNat - 0x30)
  else if 'a' ≤ c && c ≤ 'f' then some (c.toNat - 0x57)
  else if 'A' ≤ c && c ≤ 'F' then some (c.toNat - 0x37)
  else none

/-- The number of hexadecimal digits. -/
def hexNumber? (cs : List Char) : Option Nat :=
  cs.foldlM (fun n c => (hexValue? c).map (n * 16 + ·)) 0

/-- The text starts with a blank or a break, or is at its end. -/
def startsSpace : List Char → Bool
  | [] => true
  | c :: _ => isSpace c

/-- The text starts with three times `c`, standing alone. -/
def startsMark (c : Char) : List Char → Bool
  | x :: y :: z :: rest => x = c && y = c && z = c && startsSpace rest
  | _ => false

/-- The text starts with the mark of a document's start or end. -/
def startsDocumentMark (cs : List Char) : Bool := startsMark '-' cs || startsMark '.' cs

/-- A break and the breaks after it as they count inside a scalar: one break is a space, and each
further one a line feed. -/
def foldBreaks (first : Char) (more : List Char) : List Char :=
  if first = '\n' then (if more.isEmpty then [' '] else more) else first :: more

end TenantAuth.Yaml

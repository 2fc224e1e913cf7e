import TenantAuth.Regex.Basic
import TenantAuth.Regex.ClassName
import TenantAuth.Regex.Reader

/-!
# Escapes

What a backslash and the characters after it stand for.
-/
namespace TenantAuth.Regex

/-- The smallest parts of a pattern. -/
inductive Primitive where
  /-- A character, perhaps one that is given by the number of its byte. -/
  | char (c : Char) (isByte : Bool)
  | anyChar
  | place (p : Place)
  | set (s : CharSet)

namespace Reader

/-- A hexadecimal digit. -/
def isHex (c : Char) : Bool := c.isDigit || ('a' ≤ c && c ≤ 'f') || ('A' ≤ c && c ≤ 'F')

/-- The character with the number of a hexadecimal numeral. -/
def charOfHex (ds : List Char) : Reader Char := do
  let n := CharSet.hexNumber (ds.map Char.toUpper)
  if ds.length ≤ 64 && n.isValidChar then return Char.ofNat n else failure

/-- A number of hexadecimal digits. -/
def hexDigits : Nat → List Char → Reader (List Char)
  | 0, ds => return ds
  | n + 1, ds => do
    let c ← next
    if !isHex c then failure
    skipBlanks
    hexDigits n (ds ++ [c])

/-- The characters up to a closing brace, which is left in place. -/
def braced : Nat → List Char → Reader (List Char)
  | 0, _ => failure
  | fuel + 1, cs => do
    advanceOver
    match ← peek with
    | none => failure
    | some '}' => return cs
    | some c => braced fuel (cs ++ [c])

/-- The text between braces, of which the first one is next. -/
def inBraces : Reader (List Char) := do
  let cs ← braced ((← rest).length + 1) []
  advance
  return cs

/-- A character by its number, of `count` digits or between braces. -/
def hexEscape (count : Nat) : Reader Primitive := do
  skipBlanks
  if (← peek) = some '{' then
    let ds ← inBraces
    skipBlanks
    if ds.isEmpty || !ds.all isHex then failure
    let significant := ds.dropWhile (· = '0')
    return .char (← charOfHex significant) false
  else return .char (← charOfHex (← hexDigits count [])) (count = 2)

/-- A class by its name. -/
def namedClass (negated : Bool) : Reader Primitive := do
  skipBlanks
  notAtEnd
  let found ← if (← peek) = some '{' then CharSet.described? <$> inBraces
    else do
      let c ← next
      if c = '\\' then failure
      skipBlanks
      pure (CharSet.named? [c])
  let some s := found | failure
  if !(← flags).anyLanguage then failure
  return .set (← negatedIf negated (← folded s))

/-- Digits, blanks or the characters of words. -/
def shortClass (letter : Char) : Reader Primitive := do
  let anyLanguage := (← flags).anyLanguage
  let s ← match letter.toLower with
    | 'd' =>
      pure (if anyLanguage then CharSet.digits else (CharSet.asciiClass? "digit").getD .empty)
    | 's' =>
      pure (if anyLanguage then CharSet.blanks else (CharSet.asciiClass? "space").getD .empty)
    | _ => pure (if anyLanguage then CharSet.wordCharacters
        else (CharSet.asciiClass? "word").getD .empty)
  return .set (← negatedIf letter.isUpper s)

/-- The edges of words by name. -/
def edgeNames : List (String × WordEdge) :=
  [("start", .start), ("end", .stop), ("start-half", .startHalf), ("end-half", .stopHalf)]

/-- A character that the name of an edge may have. -/
def isEdgeChar (c : Char) : Bool := c.isAlpha || c = '-'

/-- The characters of the name of an edge. -/
def edgeChars : Nat → List Char → Reader (List Char)
  | 0, cs => return cs
  | fuel + 1, cs => do
    match ← peek with
    | some c =>
      if isEdgeChar c then
        advanceOver
        edgeChars fuel (cs ++ [c])
      else return cs
    | none => return cs

/-- The edge of a word after `\b`: braces may name a certain one, or else are left in place. -/
def wordEdge : Reader WordEdge := do
  let before ← rest
  if before.head? ≠ some '{' then return .boundary
  advanceOver
  let some c ← peek | failure
  if !isEdgeChar c then
    goTo before
    return .boundary
  let name ← edgeChars before.length []
  expect '}'
  match edgeNames.lookup (String.ofList name) with
  | some e => return e
  | none => failure

/-- A character that has a meaning of its own in patterns. -/
def isMeta (c : Char) : Bool := c ∈ "\\.+*?()|[]\x7b\x7d^$#&-~".toList

/-- A character that a backslash may stand before without need. -/
def isEscapable (c : Char) : Bool :=
  isMeta c || (c.toNat < 0x80 && !c.isAlphanum && c ≠ '<' && c ≠ '>')

/-- What an escape stands for, from its backslash on. -/
def escape : Reader Primitive := do
  advance
  let c ← next
  let edge (e : WordEdge) : Reader Primitive := do return .place (.word e (← flags).anyLanguage)
  match c with
  | 'x' => hexEscape 2
  | 'u' => hexEscape 4
  | 'U' => hexEscape 8
  | 'p' => namedClass false
  | 'P' => namedClass true
  | 'd' | 's' | 'w' | 'D' | 'S' | 'W' => shortClass c
  | 'a' => return .char '\x07' false
  | 'f' => return .char '\x0C' false
  | 't' => return .char '\t' false
  | 'n' => return .char '\n' false
  | 'r' => return .char '\r' false
  | 'v' => return .char '\x0B' false
  | 'A' => return .place .textStart
  | 'z' => return .place .textEnd
  | 'b' => edge (← wordEdge)
  | 'B' => edge .noBoundary
  | '<' => edge .start
  | '>' => edge .stop
  | _ => if isEscapable c then return .char c false else failure

end Reader

end TenantAuth.Regex

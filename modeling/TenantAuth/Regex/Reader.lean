import TenantAuth.Regex.Unicode.Class
import TenantAuth.Text.Blank

/-!
# Stepping through a pattern

A reader goes through the characters of a pattern under flags, which groups change, and fails where
the pattern is not understood.
-/
namespace TenantAuth.Regex

/-- What a pattern means by its characters. -/
structure Flags where
  ignoreCase : Bool
  multiLine : Bool
  dotMatchesAll : Bool
  anyLanguage : Bool
  returnLines : Bool
  spaced : Bool
  deriving DecidableEq

/-- The flags at the start of a pattern: its characters are those of any language. -/
def Flags.initial : Flags := ⟨false, false, false, true, false, false⟩

/-- The flags with the one of a letter set; some letters do not bear on what matches. -/
def Flags.set? (f : Flags) (letter : Char) (on : Bool) : Option Flags :=
  match letter with
  | 'i' => some { f with ignoreCase := on }
  | 'm' => some { f with multiLine := on }
  | 's' => some { f with dotMatchesAll := on }
  | 'U' => some f
  | 'u' => some { f with anyLanguage := on }
  | 'R' => some { f with returnLines := on }
  | 'x' => some { f with spaced := on }
  | _ => none

/-- What is left of a pattern, the flags, and the names of the groups so far. -/
structure Cursor where
  rest : List Char
  flags : Flags
  names : List (List Char)

/-- A step through a pattern, which may fail. -/
abbrev Reader (α : Type) := StateT Cursor Option α

namespace Reader

/-- The next character, left in place. -/
def peek : Reader (Option Char) := do return (← get).rest.head?

/-- The characters that are left. -/
def rest : Reader (List Char) := do return (← get).rest

/-- The flags. -/
def flags : Reader Flags := do return (← get).flags

/-- Goes on at the given characters. -/
def goTo (rest : List Char) : Reader Unit := modify fun c => { c with rest }

/-- Passes over a character. -/
def advance : Reader Unit := modify fun c => { c with rest := c.rest.drop 1 }

/-- The characters after blanks and comments, which end with their lines. -/
def afterBlanks (inComment : Bool) : List Char → List Char
  | [] => []
  | c :: cs =>
    if inComment then afterBlanks (c ≠ '\n') cs
    else if Text.isBlank c then afterBlanks false cs
    else if c = '#' then afterBlanks true cs
    else c :: cs

/-- Passes over blanks and comments, if the flags allow them. -/
def skipBlanks : Reader Unit := modify fun c =>
  if c.flags.spaced then { c with rest := afterBlanks false c.rest } else c

/-- Passes over a character and the blanks after it. -/
def advanceOver : Reader Unit := do
  advance
  skipBlanks

/-- Fails at the end of the pattern. -/
def notAtEnd : Reader Unit := do
  if (← peek).isNone then failure

/-- The next character, which is passed over. -/
def next : Reader Char := do
  let some c ← peek | failure
  advance
  return c

/-- The next character has to be the given one. -/
def expect (c : Char) : Reader Unit := do
  if (← next) ≠ c then failure

/-- Passes over the given characters if they are next. -/
def passes (cs : List Char) : Reader Bool := do
  let r ← rest
  if cs.isPrefixOf r then
    goTo (r.drop cs.length)
    return true
  else return false

/-- The characters of a class as the flags take them: with all that are one up to case. -/
def folded (s : CharSet) : Reader CharSet := do
  let f ← flags
  return if !f.ignoreCase then s else if f.anyLanguage then s.folded else s.foldedAscii

/-- The characters that are not in a class, if the class is said to be negated; of ASCII characters
alone nothing can be negated. -/
def negatedIf (negated : Bool) (s : CharSet) : Reader CharSet := do
  if !negated then return s
  else if (← flags).anyLanguage then return s.compl
  else failure

end Reader

end TenantAuth.Regex

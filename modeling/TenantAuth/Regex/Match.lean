import TenantAuth.Regex.Basic
import TenantAuth.Regex.Unicode.Class

/-!
# Searching

An expression moves a set of positions in a text: `Regex.move` gives the ends of its matches that
begin at one of them. A text has a match if some position is the end of one.
-/
namespace TenantAuth

/-- A text with its characters in order. -/
abbrev Haystack := Array Char

/-- The characters before and after a position. -/
def Haystack.around (h : Haystack) (i : Nat) : Option Char × Option Char :=
  (if i = 0 then none else h[i - 1]?, h[i]?)

namespace Place

/-- An ASCII letter, digit or underscore. -/
def isAsciiWord (c : Char) : Bool := c.isAlphanum || c = '_'

/-- The characters before and after a place make the edge of a word. -/
def isEdge (edge : WordEdge) (before after : Bool) : Bool :=
  match edge with
  | .boundary => before != after
  | .noBoundary => before == after
  | .start => !before && after
  | .stop => before && !after
  | .startHalf => !before
  | .stopHalf => !after

/-- The place is what it is asked to be. -/
def holds (p : Place) (before after : Option Char) : Bool :=
  match p with
  | .textStart => before.isNone
  | .textEnd => after.isNone
  | .lineStart => before.isNone || before = some '\n'
  | .lineEnd => after.isNone || after = some '\n'
  | .returnLineStart =>
    before.isNone || before = some '\n' || (before = some '\r' && after ≠ some '\n')
  | .returnLineEnd =>
    after.isNone || after = some '\r' || (after = some '\n' && before ≠ some '\r')
  | .word edge anyLanguage =>
    let isWord (c : Char) : Bool :=
      if anyLanguage then CharSet.wordCharacters.contains c else isAsciiWord c
    isEdge edge (before.any isWord) (after.any isWord)

end Place

namespace Regex

/-- Two ascending lists of positions as one. -/
def merged : List Nat → List Nat → List Nat
  | [], js => js
  | is, [] => is
  | i :: is, j :: js =>
    if i < j then i :: merged is (j :: js)
    else if j < i then j :: merged (i :: is) js
    else i :: merged is js
  termination_by is js => is.length + js.length

/-- Moves positions a number of times, as long as that changes them. -/
def moveExactly (step : List Nat → List Nat) : Nat → List Nat → List Nat
  | 0, is => is
  | n + 1, is =>
    let js := step is
    if js = is then is else moveExactly step n js

/-- Positions that are reached by moving up to a number of times. -/
def moveUpTo (step : List Nat → List Nat) : Nat → List Nat → List Nat
  | 0, is => is
  | n + 1, is =>
    let js := merged is (step is)
    if js = is then is else moveUpTo step n js

/-- The ends of matches that begin at one of the positions, which ascend. -/
def move (h : Haystack) : Regex → List Nat → List Nat
  | .empty, is => is
  | .one s, is => is.filterMap fun i => if (h[i]?).any s.contains then some (i + 1) else none
  | .place p, is => is.filter fun i => p.holds (h.around i).1 (h.around i).2
  | .seq a b, is => move h b (move h a is)
  | .either a b, is => merged (move h a is) (move h b is)
  | .times r least most, is =>
    let reached := moveExactly (move h r) least is
    moveUpTo (move h r) (match most with
      | some n => n - least
      | none => h.size) reached

/-- The expression has a match somewhere in the text. -/
def isMatch (r : Regex) (s : String) : Bool :=
  let h : Haystack := s.toList.toArray
  !(move h r (List.range (h.size + 1))).isEmpty

end Regex

end TenantAuth

import TenantAuth.Regex.CharSet

/-!
# Regular expressions

Expressions over characters and over the places between them.
-/
namespace TenantAuth

/-- What a place between two characters may be to a word; its characters are those of any language
or ASCII ones. -/
inductive WordEdge where
  | boundary
  | noBoundary
  | start
  | stop
  | startHalf
  | stopHalf
  deriving DecidableEq

/-- What is asked of a place between two characters. -/
inductive Place where
  | textStart
  | textEnd
  | lineStart
  | lineEnd
  | returnLineStart
  | returnLineEnd
  | word (edge : WordEdge) (anyLanguage : Bool)
  deriving DecidableEq

/-- A regular expression. -/
inductive Regex where
  | empty
  | one (s : CharSet)
  | place (p : Place)
  | seq (a b : Regex)
  | either (a b : Regex)
  | times (r : Regex) (least : Nat) (most : Option Nat)
  deriving DecidableEq

namespace Regex

/-- The expression asks for words of any language. -/
def asksForWords : Regex → Bool
  | .place (.word _ anyLanguage) => anyLanguage
  | .seq a b | .either a b => a.asksForWords || b.asksForWords
  | .times r _ _ => r.asksForWords
  | _ => false

end Regex

end TenantAuth

import TenantAuth.Text.Utf8

/-!
# Path patterns

The paths that a route is for: bytes that stand for themselves, `{name}` for a segment, and
`{*name}` for all that is left. Doubled braces stand for one. Of the patterns that fit a path the
most specific one counts, which `moreSpecific` tells.
-/
namespace TenantAuth

/-- A piece of a pattern. -/
inductive PathPiece where
  | literal (b : UInt8)
  | segment
  | remainder
  deriving DecidableEq

/-- A pattern of paths. -/
abbrev PathPattern := List PathPiece

namespace PathPattern

/-- The piece for a name between braces. -/
def pieceOf (name : Bytes) : PathPiece :=
  if name.head? = some 0x2A then .remainder else .segment

/-- The pattern that bytes denote. -/
def ofBytes : Bytes → PathPattern
  | [] => []
  | b :: rest =>
    if b = 0x7B then
      if rest.head? = some 0x7B then .literal 0x7B :: ofBytes (rest.drop 1)
      else
        let name := rest.takeWhile (· ≠ 0x7D)
        pieceOf name :: ofBytes (rest.drop (name.length + 1))
    else if b = 0x7D then .literal 0x7D :: ofBytes (rest.drop 1)
    else .literal b :: ofBytes rest
  termination_by bs => bs.length
  decreasing_by all_goals simp only [List.length_drop, List.length_cons]; omega

/-- The pattern that a text denotes. -/
def ofText (s : String) : PathPattern := ofBytes (Text.bytes s)

/-- The path fits the pattern; a segment and what is left hold one byte at least. -/
def fits : PathPattern → Bytes → Bool
  | [], path => path.isEmpty
  | .literal _ :: _, [] => false
  | .literal b :: pieces, c :: path => b = c && fits pieces path
  | .segment :: pieces, path =>
    let segment := path.takeWhile (· ≠ 0x2F)
    !segment.isEmpty && fits pieces (path.drop segment.length)
  | .remainder :: _, path => !path.isEmpty

/-- Where two patterns part, the first one has the more specific piece. -/
def moreSpecific : PathPattern → PathPattern → Bool
  | .literal _ :: p, .literal _ :: q => moreSpecific p q
  | .segment :: p, .segment :: q => moreSpecific p q
  | .literal _ :: _, _ => true
  | .segment :: _, .remainder :: _ => true
  | _, _ => false

end PathPattern

end TenantAuth

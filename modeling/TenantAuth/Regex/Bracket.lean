import TenantAuth.Regex.Escape

/-!
# Classes in brackets

Classes of characters between brackets: characters, ranges, named classes, further brackets, and
what set operations make of them. The depth of a class counts its brackets and what puts its parts
together.
-/
namespace TenantAuth.Regex

/-- A class in brackets or a part of one. -/
structure Class where
  set : CharSet
  depth : Nat

namespace Class

/-- A class that has no parts. -/
def leaf (s : CharSet) : Class := ⟨s, 0⟩

/-- All that is in one of the parts. -/
def union : List Class → Class
  | [] => leaf .empty
  | [p] => p
  | ps => ⟨.unions (ps.map set), 1 + (ps.map depth).foldl max 0⟩

end Class

/-- The operations on sets that brackets may hold. -/
inductive SetOp where
  | inter
  | diff
  | symmDiff

/-- What an operation makes of two sets. -/
def SetOp.apply : SetOp → CharSet → CharSet → CharSet
  | .inter => .inter
  | .diff => .diff
  | .symmDiff => .symmDiff

namespace Reader

/-- The operation so far with the operand that follows. -/
def operated (pending : Option (SetOp × Class)) (operand : Class) : Reader Class := do
  match pending with
  | none => return operand
  | some (op, left) =>
    return ⟨op.apply (← folded left.set) (← folded operand.set), 1 + max left.depth operand.depth⟩

/-- A character of a class. Of ASCII characters alone no others can be part. -/
def classChar (c : Char) : Reader Char := do
  if c.toNat < 0x80 || (← flags).anyLanguage then return c else failure

/-- A part of a class that is no bracket. -/
def classPrimitive : Reader Primitive := do
  if (← peek) = some '\\' then escape else return .char (← next) false

/-- The next character but one, past blanks if the flags allow them. -/
def peekPast : Reader (Option Char) := do
  let after := (← rest).drop 1
  if !(← flags).spaced then return after.head?
  else
    match after.dropWhile Text.isBlank with
    | '#' :: comment => return (comment.dropWhile Text.isBlank).head? <|> after.head?
    | [] => return after.head?
    | c :: _ => return some c

/-- A primitive alone or the range from it to another one. -/
def classRange : Reader Class := do
  let first ← classPrimitive
  skipBlanks
  notAtEnd
  let past ← peekPast
  if (← peek) ≠ some '-' || past = some ']' || past = some '-' then
    match first with
    | .char c _ => return .leaf (.single (← classChar c))
    | .set s => return .leaf s
    | _ => failure
  else
    advanceOver
    notAtEnd
    match first, ← classPrimitive with
    | .char a _, .char b _ =>
      if a ≤ b then return .leaf (.ofRanges [((← classChar a).toNat, (← classChar b).toNat)])
      else failure
    | _, _ => failure

/-- A class of ASCII characters by its name, from its bracket on, if it is one: whether it is
negated, the class, and the characters after it. -/
def asciiClass? (cs : List Char) : Option (Bool × CharSet × List Char) := do
  let ([], afterOpening) ← CharSet.cut? ['[', ':'] cs | none
  let (negated, named) := match afterOpening with
    | '^' :: r => (true, r)
    | r => (false, r)
  let (name, after) ← CharSet.cut? [':'] named
  let ']' :: after := after | none
  let s ← CharSet.asciiClass? (String.ofList name)
  return (negated, s, after)

/-- Hyphens at the start of a bracket, which stand for themselves. -/
def leadingHyphens : Nat → List Class → Reader (List Class)
  | 0, parts => return parts
  | fuel + 1, parts => do
    if (← peek) = some '-' then
      advanceOver
      notAtEnd
      leadingHyphens fuel (parts ++ [.leaf (.single '-')])
    else return parts

/-- An opening bracket: whether the class is negated, and what stands for itself at its start. -/
def openBracket : Reader (Bool × List Class) := do
  advanceOver
  notAtEnd
  let negated := (← peek) = some '^'
  if negated then
    advanceOver
    notAtEnd
  let hyphens ← leadingHyphens ((← rest).length) []
  if hyphens.isEmpty && (← peek) = some ']' then
    advanceOver
    notAtEnd
    return (negated, [.leaf (.single ']')])
  else return (negated, hyphens)

/-- The class of a bracket with the given content. -/
def bracketed (negated : Bool) (content : Class) : Reader Class := do
  return ⟨← negatedIf negated (← folded content.set), content.depth + 1⟩

/-- The content of a bracket up to its end: `parts` have been read since the last operation. -/
def classContent : Nat → Option (SetOp × Class) → List Class → Reader Class
  | 0, _, _ => failure
  | fuel + 1, pending, parts => do
    skipBlanks
    match ← rest with
    | [] => failure
    | ']' :: after =>
      goTo after
      operated pending (.union parts)
    | '&' :: '&' :: after =>
      goTo after
      classContent fuel (some (.inter, ← operated pending (.union parts))) []
    | '-' :: '-' :: after =>
      goTo after
      classContent fuel (some (.diff, ← operated pending (.union parts))) []
    | '~' :: '~' :: after =>
      goTo after
      classContent fuel (some (.symmDiff, ← operated pending (.union parts))) []
    | '[' :: more =>
      match asciiClass? ('[' :: more) with
      | some (negated, s, after) =>
        goTo after
        let s ← negatedIf negated (← folded s)
        classContent fuel pending (parts ++ [.leaf s])
      | none =>
        let (negated, start) ← openBracket
        let inner ← bracketed negated (← classContent fuel none start)
        classContent fuel pending (parts ++ [inner])
    | _ =>
      let part ← classRange
      classContent fuel pending (parts ++ [part])

/-- A class in brackets. -/
def bracket : Reader Class := do
  let (negated, start) ← openBracket
  bracketed negated (← classContent ((← rest).length + 1) none start)

end Reader

end TenantAuth.Regex

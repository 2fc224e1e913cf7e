import TenantAuth.Regex.Bracket
import TenantAuth.Regex.Room
import TenantAuth.Text.Alphanumeric

/-!
# Patterns

The regular expression that a pattern denotes. Groups, repetitions, sequences and choices nest at
most `maxDepth` deep.
-/
namespace TenantAuth.Regex

/-- A part of a pattern: its expression, how deep it nests, the room that it takes, and whether it
may be repeated. -/
structure Part where
  regex : Regex
  depth : Nat
  room : Nat
  repeatable : Bool

namespace Part

/-- A part that has no parts. -/
def leaf (r : Regex) (room : Nat) : Part := ⟨r, 0, room, true⟩

/-- A change of flags, which matches nothing by itself. -/
def change : Part := ⟨.empty, 0, 0, false⟩

/-- The greatest depth of some parts. -/
def depthOf (ps : List Part) : Nat := (ps.map depth).foldl max 0

/-- The room of some parts. -/
def roomOf (ps : List Part) : Nat := ps.foldl (fun n p => n + p.room) 0

/-- Parts one after the other. -/
def sequence : List Part → Part
  | [] => leaf .empty 32
  | [p] => p
  | ps => ⟨ps.foldr (fun p r => .seq p.regex r) .empty, 1 + depthOf ps, roomOf ps, true⟩

/-- A choice between parts. -/
def choice : List Part → Part
  | [] => leaf .empty 32
  | [p] => p
  | p :: ps =>
    ⟨ps.foldl (fun r q => .either r q.regex) p.regex, 1 + depthOf (p :: ps),
      64 + 4 * (ps.length + 1) + roomOf (p :: ps), true⟩

/-- A part between parentheses, which may be kept. -/
def group (kept : Bool) (p : Part) : Part :=
  ⟨p.regex, p.depth + 1, (if kept then 64 else 0) + p.room, true⟩

/-- A part a number of times. -/
def repeated (least : Nat) (most : Option Nat) (p : Part) : Part :=
  let room := match most with
    | none => max 1 least * p.room + 64
    | some n => if n = least then n * p.room else n * p.room + (n - least) * 40 + 32
  ⟨if most = some 0 then .empty else .times p.regex least most, p.depth + 1, room, true⟩

end Part

namespace Reader

/-- The part that a primitive makes up under the flags. -/
def partOf (p : Primitive) : Reader Part := do
  let f ← flags
  match p with
  | .char c isByte =>
    if !f.anyLanguage && isByte && 0x80 ≤ c.toNat then failure
    let s ← if f.anyLanguage || c.toNat < 0x80 then folded (.single c) else pure (.single c)
    return .leaf (.one s) s.room
  | .anyChar =>
    if !f.anyLanguage then failure
    let s : CharSet := if f.dotMatchesAll then .all
      else if f.returnLines then (CharSet.ofLines ["A", "D"]).compl
      else (CharSet.single '\n').compl
    return .leaf (.one s) s.room
  | .place p => return .leaf (.place p) 32
  | .set s => return .leaf (.one s) s.room

/-- A part that is a primitive, which is next. -/
def primitivePart : Reader Part := do
  let f ← flags
  match ← peek with
  | some '\\' => partOf (← escape)
  | some '.' => do advance; partOf .anyChar
  | some '^' => do
    advance
    partOf (.place (if !f.multiLine then .textStart
      else if f.returnLines then .returnLineStart else .lineStart))
  | some '$' => do
    advance
    partOf (.place (if !f.multiLine then .textEnd
      else if f.returnLines then .returnLineEnd else .lineEnd))
  | _ => partOf (.char (← next) false)

/-! ## Repetition -/

/-- A decimal numeral, with blanks around it. -/
def count : Reader Nat := do
  goTo ((← rest).dropWhile Text.isBlank)
  let ds ← digits ((← rest).length) []
  goTo ((← rest).dropWhile Text.isBlank)
  skipBlanks
  let n := ds.foldl (fun n c => n * 10 + (c.toNat - '0'.toNat)) 0
  if ds.isEmpty || 0x100000000 ≤ n then failure else return n
where
  digits : Nat → List Char → Reader (List Char)
    | 0, ds => return ds
    | fuel + 1, ds => do
      match ← peek with
      | some c =>
        if c.isDigit then
          advanceOver
          digits fuel (ds ++ [c])
        else return ds
      | none => return ds

/-- A question mark, which does not bear on what matches. -/
def skipLazy : Reader Unit := do
  if (← peek) = some '?' then advance

/-- The bounds of a repetition between braces, of which the first one is next. -/
def bounds : Reader (Nat × Option Nat) := do
  advanceOver
  let least ← count
  let most ← match ← peek with
    | some ',' =>
      advanceOver
      if (← peek) = some '}' then pure none else some <$> count
    | _ => pure (some least)
  expect '}'
  skipBlanks
  skipLazy
  if most.all (least ≤ ·) then return (least, most) else failure

/-- The bounds of the repetition that is next. -/
def repetition : Reader (Nat × Option Nat) := do
  match ← peek with
  | some '?' => do advance; skipLazy; return (0, some 1)
  | some '*' => do advance; skipLazy; return (0, none)
  | some '+' => do advance; skipLazy; return (1, none)
  | _ => bounds

/-- The parts with the last one repeated, which has to be there and repeatable. -/
def repeatLast (bounds : Nat × Option Nat) (parts : List Part) : Reader (List Part) := do
  match parts.getLast? with
  | none => failure
  | some p =>
    if p.repeatable then return parts.dropLast ++ [p.repeated bounds.1 bounds.2] else failure

/-! ## Groups -/

/-- The flags that letters set and, after a hyphen, clear: the new flags, whether there were any
letters, the colon or parenthesis that ends them, and the characters after it. -/
def changed (seen : List Char) (on : Bool) (f : Flags) :
    List Char → Option (Flags × Bool × Char × List Char)
  | [] => none
  | c :: cs =>
    if c = ':' || c = ')' then
      if seen.head? = some '-' then none else some (f, !seen.isEmpty, c, cs)
    else if c ∈ seen then none
    else if c = '-' then changed (c :: seen) false f cs
    else
      match f.set? c on with
      | some f => changed (c :: seen) on f cs
      | none => none

/-- A character that the name of a group may have. -/
def isNameChar (isFirst : Bool) (c : Char) : Bool :=
  if isFirst then c = '_' || CharSet.alphabetic.contains c
  else c = '_' || c = '.' || c = '[' || c = ']' || Text.isAlphanumeric c

/-- The name of a group up to its angle bracket. -/
def groupName : Reader Unit := do
  let some (name, after) := CharSet.cut? ['>'] (← rest) | failure
  let c ← get
  match name with
  | [] => failure
  | first :: others =>
    if isNameChar true first && others.all (isNameChar false) && name ∉ c.names then
      set { c with rest := after, names := name :: c.names }
    else failure

/-- What an opening parenthesis begins: a change of flags for what follows, or a group under flags,
which may be kept. -/
inductive Opening where
  | change (f : Flags)
  | group (f : Flags) (kept : Bool)

/-- What the parenthesis that is next begins. -/
def opening : Reader Opening := do
  advanceOver
  let f ← flags
  for around in [['?', '='], ['?', '!'], ['?', '<', '='], ['?', '<', '!']] do
    if around.isPrefixOf (← rest) then failure
  if ← passes ['?', 'P', '<'] then do groupName; return .group f true
  else if ← passes ['?', '<'] then do groupName; return .group f true
  else if ← passes ['?'] then
    let some (f, any, stop, after) := changed [] true f (← rest) | failure
    goTo after
    if stop = ':' then return .group f false
    else if any then return .change f
    else failure
  else return .group f true

/-- Sets the flags. -/
def setFlags (f : Flags) : Reader Unit := modify fun c => { c with flags := f }

/-! ## Whole patterns -/

/-- A choice up to its end, which is left in place: `branches` have been read, and `parts` of the
branch at hand. -/
def branches : Nat → List Part → List Part → Reader Part
  | 0, _, _ => failure
  | fuel + 1, before, parts => do
    skipBlanks
    let finished := before ++ [.sequence parts]
    match ← peek with
    | none | some ')' => return .choice finished
    | some '|' =>
      advance
      branches fuel finished []
    | some '(' =>
      let outer ← flags
      match ← opening with
      | .change f =>
        setFlags f
        branches fuel before (parts ++ [.change])
      | .group f kept =>
        setFlags f
        let inner ← branches fuel [] []
        expect ')'
        setFlags outer
        branches fuel before (parts ++ [inner.group kept])
    | some '[' =>
      let c ← bracket
      branches fuel before (parts ++ [⟨.one c.set, c.depth, c.set.room, true⟩])
    | some '?' | some '*' | some '+' | some '{' =>
      let parts ← repeatLast (← repetition) parts
      branches fuel before parts
    | some _ =>
      let p ← primitivePart
      branches fuel before (parts ++ [p])

/-- Nesting allowed of parts in parts. -/
def maxDepth : Nat := 250

end Reader

/-- The expression of a pattern and the room that it takes. -/
structure Pattern where
  regex : Regex
  room : Nat

/-- The pattern that a text denotes. -/
def Pattern.ofText? (s : String) : Option Pattern := do
  let cs := s.toList
  let (p, c) ← (Reader.branches (cs.length + 1) [] []).run ⟨cs, .initial, []⟩
  if c.rest.isEmpty && p.depth ≤ Reader.maxDepth then return ⟨p.regex, p.room⟩ else none

end TenantAuth.Regex

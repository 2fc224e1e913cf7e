import TenantAuth.Json.Scalar

/-!
# Reading values

Lists, objects and free-form data, which nest at most `maxDepth` deep, and whole texts.
-/
namespace TenantAuth.Json

namespace Reader

/-! ## Lists and objects -/

/-- Whether another item of a list follows. -/
def hasItem (first : Bool) : Reader Bool := do
  match ← peekToken with
  | none => failNext .eofList
  | some b =>
    if b = 0x5D then return false
    else if first then return true
    else if b = 0x2C then
      advance
      match ← peekToken with
      | none => failNext .eofValue
      | some c => if c = 0x5D then failNext .trailingComma else return true
    else failNext .expectedListCommaOrEnd

/-- Whether another member of an object follows; its opening quote is next. -/
def hasMember (first : Bool) : Reader Bool := do
  match ← peekToken with
  | none => failNext .eofObject
  | some b =>
    if b = 0x7D then return false
    else if first then
      if b = 0x22 then return true else failNext .keyNotString
    else if b = 0x2C then
      advance
      match ← peekToken with
      | none => failNext .eofValue
      | some c =>
        if c = 0x22 then return true
        else if c = 0x7D then failNext .trailingComma
        else failNext .keyNotString
    else failNext .expectedObjectCommaOrEnd

/-- The end of a list. -/
def endList : Reader Unit := do
  match ← peekToken with
  | none => failNext .eofList
  | some b =>
    if b = 0x5D then advance
    else if b = 0x2C then
      advance
      match ← peekToken with
      | some 0x5D => failNext .trailingComma
      | _ => failNext .trailingCharacters
    else failNext .trailingCharacters

/-- The end of an object. -/
def endObject : Reader Unit := do
  match ← peekToken with
  | none => failNext .eofObject
  | some b =>
    if b = 0x7D then advance
    else if b = 0x2C then failNext .trailingComma
    else failNext .trailingCharacters

/-- The colon between the name of a member and its value. -/
def colon : Reader Unit := do
  match ← peekToken with
  | none => failNext .eofObject
  | some b => if b = 0x3A then advance else failNext .expectedColon

/-- The items of a list up to its bracket, added to `read`, which is in reverse. -/
def items (item : Reader α) : Nat → List α → Reader (List α)
  | 0, _ => failNext .eofList
  | steps + 1, read => do
    if ← hasItem read.isEmpty then
      let a ← within (.item read.length) item
      items item steps (a :: read)
    else return read.reverse

/-- The members of an object up to its brace: `member` is given what was made of those before and
the name, and reads the colon and the value. -/
def members (member : σ → String → Reader σ) : Nat → Bool → σ → Reader σ
  | 0, _, _ => failNext .eofObject
  | steps + 1, first, s => do
    if ← hasMember first then
      advance
      let name ← stringText
      let s ← member s name
      members member steps false s
    else return s

/-- The value of a member, after its colon. -/
def memberValue (name : String) (value : Reader α) : Reader α := do
  colon
  within (.member name) value

/-- A value that nests at most `depth` deep, the value itself counted; `put` adds a member to those
before it in an object. -/
def valueWith (put : String → Json → List (String × Json) → List (String × Json)) :
    (depth : Nat) → Reader Json
  | 0 => failNext .recursionLimit
  | depth + 1 => do
    match ← peekToken with
    | none => failNext .eofValue
    | some b =>
      if b = 0x6E then do advance; ident [0x75, 0x6C, 0x6C]; return .null
      else if b = 0x74 then do advance; ident [0x72, 0x75, 0x65]; return .bool true
      else if b = 0x66 then do advance; ident [0x61, 0x6C, 0x73, 0x65]; return .bool false
      else if b = 0x2D then do advance; return (← number true).toJson
      else if Text.Decimal.isDigit b then return (← number false).toJson
      else if b = 0x22 then do advance; return .str (← stringText)
      else if b = 0x5B then
        if depth = 0 then failNext .recursionLimit
        else
          advance
          let vs ← closedBy (do items (valueWith put depth) (← stepsLeft) []) endList
          return .arr vs
      else if b = 0x7B then
        if depth = 0 then failNext .recursionLimit
        else
          advance
          let ms ← closedBy
            (do members
                  (fun ms name => do
                    let v ← memberValue name (valueWith put depth)
                    return put name v ms)
                  (← stepsLeft) true [])
            endObject
          return .obj ms
      else failNext .expectedValue

/-- A value that nests at most `depth` deep; the members of objects are sorted, the last of each
name counts. -/
def value (depth : Nat) : Reader Json := valueWith setMember depth

/-- A value that nests at most `depth` deep, with all members of objects as they are written. -/
def writtenValue (depth : Nat) : Reader Json := valueWith (fun name v ms => ms ++ [(name, v)]) depth

/-! ## Whole texts -/

/-- The end of the text. -/
def endOfText : Reader Unit := do
  match ← peekToken with
  | none => return
  | some _ => failNext .trailingCharacters

/-- What a reader makes of a whole text. -/
def run (r : Reader α) (input : Bytes) : Except Refusal α :=
  (r (Cursor.start input)).1

end Reader

/-- The value that a byte text denotes. -/
def parse (input : Bytes) : Except Refusal Json :=
  Reader.run (do let v ← Reader.value Reader.maxDepth; Reader.endOfText; return v) input

end TenantAuth.Json

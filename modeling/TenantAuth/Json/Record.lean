import TenantAuth.Json.Skip

/-!
# Reading records

Readers for values of a known type. A record is an object of its fields in any order, among which
unknown members are passed over, or the array of its fields in order. A field that is given twice
or left out is refused, unless it has a default.
-/
namespace TenantAuth.Json.Reader

/-- Refuses the next value, which is of the wrong type. -/
def wrongType (expected : String) : Reader α := located do
  match ← peekToken with
  | none => failNext .eofValue
  | some b =>
    if b = 0x6E then
      advance
      ident [0x75, 0x6C, 0x6C]
      failData (.invalidType .null expected)
    else if b = 0x74 then
      advance
      ident [0x72, 0x75, 0x65]
      failData (.invalidType (.bool true) expected)
    else if b = 0x66 then
      advance
      ident [0x61, 0x6C, 0x73, 0x65]
      failData (.invalidType (.bool false) expected)
    else if b = 0x2D then
      advance
      failData (.invalidType (← number true).found expected)
    else if Text.Decimal.isDigit b then failData (.invalidType (← number false).found expected)
    else if b = 0x22 then
      advance
      failData (.invalidType (.str (← stringText)) expected)
    else if b = 0x5B then failData (.invalidType .sequence expected)
    else if b = 0x7B then failData (.invalidType .map expected)
    else failNext .expectedValue

/-- A text, called `expected`. -/
def stringCalled (expected : String) : Reader String := located do
  match ← peekToken with
  | none => failNext .eofValue
  | some b =>
    if b = 0x22 then
      advance
      stringText
    else wrongType expected

/-- A text. -/
def string : Reader String := stringCalled "a string"

/-- `true` or `false`. -/
def bool : Reader Bool := located do
  match ← peekToken with
  | none => failNext .eofValue
  | some b =>
    if b = 0x74 then do advance; ident [0x72, 0x75, 0x65]; return true
    else if b = 0x66 then do advance; ident [0x61, 0x6C, 0x73, 0x65]; return false
    else wrongType "a boolean"

/-- An integer between `lo` and `hi`, called `expected`. -/
def integer (lo hi : Int) (expected : String) : Reader Int := located do
  let check : Number → Reader Int
    | .float x => failData (.invalidType (.float x) expected)
    | .int n => if lo ≤ n ∧ n ≤ hi then return n else failData (.invalidValue (.int n) expected)
  match ← peekToken with
  | none => failNext .eofValue
  | some b =>
    if b = 0x2D then
      advance
      check (← number true)
    else if Text.Decimal.isDigit b then check (← number false)
    else wrongType expected

/-- A signed 64-bit integer. -/
def int64 : Reader Int := integer int64Min int64Max "i64"

/-- An unsigned 64-bit integer. -/
def uint64 : Reader Int := integer 0 uint64Max "u64"

/-- A value or `null`. -/
def optional (r : Reader α) : Reader (Option α) := do
  match ← peekToken with
  | some 0x6E => do advance; ident [0x75, 0x6C, 0x6C]; return none
  | _ => some <$> r

/-- A list of values. -/
def list (item : Reader α) : Reader (List α) := located do
  match ← peekToken with
  | none => failNext .eofValue
  | some b =>
    if b = 0x5B then
      advance
      closedBy (do items item (← stepsLeft) []) endList
    else wrongType "a sequence"

/-- An object as a map from names, of which the last of each name counts. -/
def table (value : Reader α) : Reader (List (String × α)) := located do
  match ← peekToken with
  | none => failNext .eofValue
  | some b =>
    if b = 0x7B then
      advance
      closedBy
        (do members
              (fun ms name => do
                let v ← memberValue name value
                return setMember name v ms)
              (← stepsLeft) true [])
        endObject
    else wrongType "a map"

/-- `null`, as the content of a variant that has none. -/
def unit : Reader Unit := located do
  match ← peekToken with
  | none => failNext .eofValue
  | some b =>
    if b = 0x6E then do advance; ident [0x75, 0x6C, 0x6C]
    else wrongType "unit"

/-- The name of a variant. -/
def variantName (known : List (String × α)) : Reader α := located do
  match ← peekToken with
  | none => failNext .eofValue
  | some b =>
    if b = 0x22 then
      advance
      let name ← stringText
      match known.lookup name with
      | some a => return a
      | none => failData (.unknownVariant name (known.map Prod.fst))
    else wrongType "variant identifier"

/-- One of the variants with the given names: its name, or an object of its name and `null`. -/
def variant (known : List (String × α)) : Reader α := located do
  match ← peekToken with
  | none => failNext .eofValue
  | some b =>
    if b = 0x7B then
      advance
      let a ← variantName known
      colon
      unit
      match ← peekToken with
      | none => failHere .eofObject
      | some 0x7D => do advance; return a
      | some _ => failHere .expectedValue
    else if b = 0x22 then variantName known
    else failNext .expectedValue

/-- A record called `expected`, from the array of its fields or from an object of them. -/
def record (expected : String) (fromArray fromObject : Reader α) : Reader α := located do
  match ← peekToken with
  | none => failNext .eofValue
  | some b =>
    if b = 0x5B then
      advance
      closedBy fromArray endList
    else if b = 0x7B then
      advance
      closedBy fromObject endObject
    else wrongType expected

/-- The members of an object, folded by `member`; unknown ones are for `member` to pass over. -/
def fields (member : σ → String → Reader σ) (s : σ) : Reader σ := do
  members member (← stepsLeft) true s

/-- Passes over a member that is not known. -/
def skipMember (name : String) : Reader Unit := memberValue name skip

/-- Reads the field `name` once. -/
def once (name : String) (slot : Option α) (value : Reader α) : Reader (Option α) := do
  if slot.isSome then failData (.duplicateField name)
  else some <$> memberValue name value

/-- The field `name`, which has to be given. -/
def required (name : String) : Option α → Reader α
  | some a => return a
  | none => failData (.missingField name)

/-- The item at `index` of a record written as an array of `expected` fields. -/
def item (index : Nat) (expected : String) (value : Reader α) : Reader α := do
  if ← hasItem (index = 0) then within (.item index) value
  else failData (.invalidLength index expected)

/-- The item at `index`, or its default if the array ends before it. -/
def itemOr (index : Nat) (fallback : α) (value : Reader α) : Reader α := do
  if ← hasItem (index = 0) then within (.item index) value
  else return fallback

/-- A record of the whole text and nothing after it. -/
def whole (r : Reader α) (input : Bytes) : Except Refusal α :=
  run (do let a ← r; endOfText; return a) input

end TenantAuth.Json.Reader

import TenantAuth.Json.Read

/-!
# Passing over values

A value whose meaning does not matter is checked for its grammar alone: it may nest at any depth,
and its strings may hold any bytes. The brackets that are open are kept in a list.
-/
namespace TenantAuth.Json.Reader

/-- Passes over an escape after its backslash. -/
def skipEscape : Reader Unit := do
  match ← next with
  | none => failHere .eofString
  | some b =>
    if b = 0x75 then
      let _ ← hexEscape
    else if b ∈ [0x22, 0x5C, 0x2F, 0x62, 0x66, 0x6E, 0x72, 0x74] then return
    else failHere .invalidEscape

/-- Passes over a string after its opening quote. -/
def skipString : Nat → Reader Unit
  | 0 => failHere .eofString
  | steps + 1 => do
    match ← peek with
    | none => failHere .eofString
    | some b =>
      if b = 0x22 then advance
      else if b = 0x5C then
        advance
        skipEscape
        skipString steps
      else if b < 0x20 then failHere .controlCharacter
      else
        advance
        skipString steps

/-- A bracket that is still open while a value is skipped. -/
inductive Open where
  | list
  | object
  deriving DecidableEq

/-- Where skipping stands: before a value, or after one (or after a bracket) inside `inner`. -/
inductive Skip where
  | before (opened : List Open)
  | inside (afterValue : Bool) (inner : Open) (opened : List Open)
  | done

/-- After a value that stands inside the given brackets. -/
def Skip.after : List Open → Skip
  | [] => .done
  | inner :: opened => .inside true inner opened

/-- Passes over the digits, the fraction and the exponent of a number. -/
def skipNumber : Reader Unit := do
  match ← next with
  | none => failHere .invalidNumber
  | some d =>
    if d = 0x30 then
      match ← peek with
      | some b => if Text.Decimal.isDigit b then failNext .invalidNumber
      | none => return
    else if Text.Decimal.isDigit d then
      let _ ← digits
    else failHere .invalidNumber
  if (← peek) = some 0x2E then
    advance
    if (← digits).isEmpty then failNext .invalidNumber
  if (← peek) = some 0x65 || (← peek) = some 0x45 then
    advance
    if (← peek) = some 0x2B || (← peek) = some 0x2D then advance
    match ← next with
    | none => failHere .invalidNumber
    | some d =>
      if Text.Decimal.isDigit d then
        let _ ← digits
      else failHere .invalidNumber

/-- Passes over a scalar or an opening bracket. -/
def skipStart (opened : List Open) : Reader Skip := do
  match ← peekToken with
  | none => failNext .eofValue
  | some b =>
    if b = 0x6E then do advance; ident [0x75, 0x6C, 0x6C]; return .after opened
    else if b = 0x74 then do advance; ident [0x72, 0x75, 0x65]; return .after opened
    else if b = 0x66 then do advance; ident [0x61, 0x6C, 0x73, 0x65]; return .after opened
    else if b = 0x2D then do advance; skipNumber; return .after opened
    else if Text.Decimal.isDigit b then do skipNumber; return .after opened
    else if b = 0x22 then do advance; skipString (← stepsLeft); return .after opened
    else if b = 0x5B then do advance; return .inside false .list opened
    else if b = 0x7B then do advance; return .inside false .object opened
    else failNext .expectedValue

/-- Passes over the name of a member and its colon, if the bracket is a brace. -/
def skipName : Open → Reader Unit
  | .list => return
  | .object => do
    match ← peekToken with
    | none => failNext .eofObject
    | some b =>
      if b = 0x22 then
        advance
        skipString (← stepsLeft)
        colon
      else failNext .keyNotString

/-- Passes over what stands between two values: a comma, or the closing bracket. -/
def skipBetween (afterValue : Bool) (inner : Open) (opened : List Open) : Reader Skip := do
  match ← peekToken with
  | none => failNext (if inner = .list then .eofList else .eofObject)
  | some b =>
    if b = 0x2C && afterValue then
      advance
      skipName inner
      return .before (inner :: opened)
    else if b = (if inner = .list then 0x5D else 0x7D) then
      advance
      return .after opened
    else if afterValue then
      failNext (if inner = .list then .expectedListCommaOrEnd else .expectedObjectCommaOrEnd)
    else
      skipName inner
      return .before (inner :: opened)

/-- Goes on skipping to the end of the value. -/
def skipOn : Nat → Skip → Reader Unit
  | 0, _ => failNext .eofValue
  | _, .done => return
  | steps + 1, .before opened => do skipOn steps (← skipStart opened)
  | steps + 1, .inside afterValue inner opened => do
    skipOn steps (← skipBetween afterValue inner opened)

/-- Passes over a value of any depth. -/
def skip : Reader Unit := do skipOn (2 * (← stepsLeft)) (.before [])

end TenantAuth.Json.Reader

import TenantAuth.Json.Value
import TenantAuth.Text.Quoted

/-!
# Reading faults

Why a byte text is refused: a cause, the offset at which it was noticed, and the path of members
and items inside which it lies. `Fault.message` words the cause, `Position` counts lines and
columns.
-/
namespace TenantAuth.Json

/-- A value found where another kind of value has to stand. -/
inductive Found where
  | null
  | bool (b : Bool)
  | int (n : Int)
  | float (x : Binary64)
  | str (s : String)
  | sequence
  | map

/-- The words for what was found. -/
def Found.describe : Found → String
  | .null => "null"
  | .bool b => s!"boolean `{b}`"
  | .int n => s!"integer `{n}`"
  | .float x => "floating point `" ++ (Text.ofBytes? x.text).getD "" ++ "`"
  | .str s => "string " ++ Text.quoted s
  | .sequence => "sequence"
  | .map => "map"

/-- A value as something found. -/
def Found.ofJson : Json → Found
  | .null => .null
  | .bool b => .bool b
  | .int n => .int n
  | .float x => .float x
  | .str s => .str s
  | .arr _ => .sequence
  | .obj _ => .map

/-- Why a text is refused. -/
inductive Fault where
  | eofList
  | eofObject
  | eofString
  | eofValue
  | expectedColon
  | expectedListCommaOrEnd
  | expectedObjectCommaOrEnd
  | expectedIdent
  | expectedValue
  | invalidEscape
  | invalidNumber
  | numberOutOfRange
  | invalidUnicode
  | controlCharacter
  | keyNotString
  | loneSurrogate
  | trailingComma
  | trailingCharacters
  | unexpectedEndOfHexEscape
  | recursionLimit
  | invalidType (found : Found) (expected : String)
  | invalidValue (found : Found) (expected : String)
  | invalidLength (length : Nat) (expected : String)
  | unknownVariant (name : String) (known : List String)
  | missingField (name : String)
  | duplicateField (name : String)
  | custom (text : String)

/-- What a refusal is about: the grammar, the end of the text, or the meaning of the data. -/
inductive Fault.Kind where
  | syntactic
  | eof
  | data
  deriving DecidableEq

/-- The kind of a cause. -/
def Fault.kind : Fault → Fault.Kind
  | .eofList | .eofObject | .eofString | .eofValue => .eof
  | .invalidType .. | .invalidValue .. | .invalidLength .. | .unknownVariant .. | .missingField _
  | .duplicateField _ | .custom _ => .data
  | _ => .syntactic

/-- The names in back quotes: one alone, two joined by `or`, more as a list. -/
def oneOf : List String → String
  | [] => "there are no variants"
  | [a] => s!"expected `{a}`"
  | [a, b] => s!"expected `{a}` or `{b}`"
  | names => "expected one of " ++ ", ".intercalate (names.map fun n => s!"`{n}`")

/-- The words for a cause. -/
def Fault.message : Fault → String
  | .eofList => "EOF while parsing a list"
  | .eofObject => "EOF while parsing an object"
  | .eofString => "EOF while parsing a string"
  | .eofValue => "EOF while parsing a value"
  | .expectedColon => "expected `:`"
  | .expectedListCommaOrEnd => "expected `,` or `]`"
  | .expectedObjectCommaOrEnd => "expected `,` or `\x7d`"
  | .expectedIdent => "expected ident"
  | .expectedValue => "expected value"
  | .invalidEscape => "invalid escape"
  | .invalidNumber => "invalid number"
  | .numberOutOfRange => "number out of range"
  | .invalidUnicode => "invalid unicode code point"
  | .controlCharacter => "control character (\\u0000-\\u001F) found while parsing a string"
  | .keyNotString => "key must be a string"
  | .loneSurrogate => "lone leading surrogate in hex escape"
  | .trailingComma => "trailing comma"
  | .trailingCharacters => "trailing characters"
  | .unexpectedEndOfHexEscape => "unexpected end of hex escape"
  | .recursionLimit => "recursion limit exceeded"
  | .invalidType found expected => s!"invalid type: {found.describe}, expected {expected}"
  | .invalidValue found expected => s!"invalid value: {found.describe}, expected {expected}"
  | .invalidLength n expected => s!"invalid length {n}, expected {expected}"
  | .unknownVariant name known => s!"unknown variant `{name}`, {oneOf known}"
  | .missingField name => s!"missing field `{name}`"
  | .duplicateField name => s!"duplicate field `{name}`"
  | .custom text => text

/-- A place in a text, counted from line 1 and column 0. -/
structure Position where
  line : Nat
  column : Nat

/-- The place `offset` bytes into `input`. -/
def Position.ofOffset (input : Bytes) (offset : Nat) : Position :=
  let before := input.take offset
  { line := 1 + before.count 0x0A
    column := (before.reverse.takeWhile (· ≠ 0x0A)).length }

/-- A step from a value into a part of it. -/
inductive Step where
  | member (name : String)
  | item (index : Nat)

/-- A path in words: member names joined by dots, item numbers in brackets. -/
def pathText (path : List Step) : String :=
  path.foldl (fun t s => t ++ stepText t s) ""
where
  stepText (before : String) : Step → String
    | .member name => if before.isEmpty then name else "." ++ name
    | .item i => s!"[{i}]"

/-- A refusal: its cause, where it was noticed, and inside which parts of the value. -/
structure Refusal where
  fault : Fault
  /-- The offset of the cause; a fault of the data has none until its value has been passed. -/
  offset? : Option Nat
  path : List Step

/-- The cause and its place in `input`. -/
def Refusal.message (input : Bytes) (r : Refusal) : String :=
  match r.offset? with
  | none => r.fault.message
  | some offset =>
    let p := Position.ofOffset input offset
    s!"{r.fault.message} at line {p.line} column {p.column}"

/-- The message after the path, if there is one. -/
def Refusal.messageWithPath (input : Bytes) (r : Refusal) : String :=
  if r.path.isEmpty then r.message input
  else pathText r.path ++ ": " ++ r.message input

end TenantAuth.Json

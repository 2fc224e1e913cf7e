import TenantAuth.Json.Value

/-!
# JSON text

The compact text of a value: no blanks, members in the order given, and the shortest escape for a
quote, a backslash and each control character; all other characters stand for themselves.
`pretty` is the same value with two blanks of indentation a level.
-/
namespace TenantAuth.Json

/-- A lower-case hexadecimal digit. -/
def hexDigit (n : Nat) : UInt8 := UInt8.ofNat (if n < 10 then 0x30 + n else 0x57 + n)

/-- How a byte of a text is written inside a string. -/
def escapeByte (b : UInt8) : Bytes :=
  if b = 0x22 then [0x5C, 0x22]
  else if b = 0x5C then [0x5C, 0x5C]
  else if 0x20 ≤ b then [b]
  else if b = 0x08 then [0x5C, 0x62]
  else if b = 0x0C then [0x5C, 0x66]
  else if b = 0x0A then [0x5C, 0x6E]
  else if b = 0x0D then [0x5C, 0x72]
  else if b = 0x09 then [0x5C, 0x74]
  else [0x5C, 0x75, 0x30, 0x30, hexDigit (b.toNat / 16), hexDigit (b.toNat % 16)]

/-- A string in quotes. -/
def stringText (s : String) : Bytes :=
  0x22 :: (Text.bytes s).flatMap escapeByte ++ [0x22]

/-- Texts with a comma between any two. -/
def commaSeparated : List Bytes → Bytes
  | [] => []
  | [t] => t
  | t :: u :: rest => t ++ 0x2C :: commaSeparated (u :: rest)

/-- An array of items already written. -/
def arrayText (items : List Bytes) : Bytes := 0x5B :: commaSeparated items ++ [0x5D]

/-- An object of members whose values are already written, in the order given. -/
def objectText (members : List (String × Bytes)) : Bytes :=
  0x7B :: commaSeparated (members.map fun m => stringText m.1 ++ 0x3A :: m.2) ++ [0x7D]

def nullText : Bytes := [0x6E, 0x75, 0x6C, 0x6C]

def boolText : Bool → Bytes
  | true => [0x74, 0x72, 0x75, 0x65]
  | false => [0x66, 0x61, 0x6C, 0x73, 0x65]

def intText (n : Int) : Bytes := Text.Decimal.ofInt n

/-- The text of an optional value, `null` when there is none. -/
def optionText (text : α → Bytes) : Option α → Bytes
  | none => nullText
  | some a => text a

mutual

/-- The compact text of a value. -/
def text : Json → Bytes
  | .null => nullText
  | .bool b => boolText b
  | .int n => intText n
  | .float x => x.text
  | .str s => stringText s
  | .arr items => arrayText (itemTexts items)
  | .obj members => objectText (memberTexts members)

/-- The texts of the items of an array. -/
def itemTexts : List Json → List Bytes
  | [] => []
  | v :: rest => v.text :: itemTexts rest

/-- The members of an object with the texts of their values. -/
def memberTexts : List (String × Json) → List (String × Bytes)
  | [] => []
  | (name, v) :: rest => (name, v.text) :: memberTexts rest

end

/-- A line break and the indentation of a level. -/
def newline (level : Nat) : Bytes := 0x0A :: List.replicate (2 * level) 0x20

mutual

/-- The text of a value over several lines, inside `level` brackets. -/
def pretty (level : Nat) : Json → Bytes
  | .arr [] => [0x5B, 0x5D]
  | .arr (v :: rest) =>
    0x5B :: newline (level + 1) ++ pretty (level + 1) v ++ prettyItems (level + 1) rest ++
      newline level ++ [0x5D]
  | .obj [] => [0x7B, 0x7D]
  | .obj ((name, v) :: rest) =>
    0x7B :: newline (level + 1) ++ stringText name ++ [0x3A, 0x20] ++ pretty (level + 1) v ++
      prettyMembers (level + 1) rest ++ newline level ++ [0x7D]
  | .null => nullText
  | .bool b => boolText b
  | .int n => intText n
  | .float x => x.text
  | .str s => stringText s

/-- The items after the first, each after a comma on a line of its own. -/
def prettyItems (level : Nat) : List Json → Bytes
  | [] => []
  | v :: rest => 0x2C :: newline level ++ pretty level v ++ prettyItems level rest

/-- The members after the first, each after a comma on a line of its own. -/
def prettyMembers (level : Nat) : List (String × Json) → Bytes
  | [] => []
  | (name, v) :: rest =>
    0x2C :: newline level ++ stringText name ++ [0x3A, 0x20] ++ pretty level v ++
      prettyMembers level rest

end

end TenantAuth.Json

import TenantAuth.Yaml.Scanner

/-!
# Directives, anchors and tags

What stands before a document or a node and says how it is to be taken.
-/
namespace TenantAuth.Yaml.Scan

/-- A number of a version. -/
def versionNumber : Scan Nat := do
  let ds ← takeWhile Char.isDigit
  if ds.isEmpty || 9 < ds.length then throw .malformedDirective
  return ds.foldl (fun n d => n * 10 + (d.toNat - '0'.toNat)) 0

/-- The byte that a percent sign and two digits stand for. -/
def escapedByte : Scan UInt8 := do
  match ← rest with
  | '%' :: x :: y :: _ =>
    match hexNumber? [x, y] with
    | some n =>
      skip 3
      return UInt8.ofNat n
    | none => throw .malformedTag
  | _ => throw .malformedTag

/-- How many bytes go on with a character that starts with `b`. -/
def continuation? (b : UInt8) : Option Nat :=
  if b < 0x80 then some 0
  else if 0xC0 ≤ b && b < 0xE0 then some 1
  else if 0xE0 ≤ b && b < 0xF0 then some 2
  else if 0xF0 ≤ b && b < 0xF8 then some 3
  else none

/-- A character written as escaped bytes. -/
def escapedBytes : Scan Bytes := do
  let first ← escapedByte
  match continuation? first with
  | none => throw .malformedTag
  | some n =>
    let more ← (List.replicate n ()).mapM fun _ => do
      let b ← escapedByte
      if 0x80 ≤ b && b < 0xC0 then return b else throw .malformedTag
    return first :: more

/-- A character of a tag; some only inside angle brackets. -/
def isUriChar (verbatim : Bool) (c : Char) : Bool :=
  isNameChar c || c ∈ [';', '/', '?', ':', '@', '&', '=', '+', '$', '.', '%', '!', '~', '*',
    '\x27', '(', ')'] || (verbatim && c ∈ [',', '[', ']'])

/-- The bytes of a tag, escapes resolved. -/
def uriBytes (verbatim : Bool) : Nat → Scan Bytes
  | 0 => return []
  | steps + 1 => do
    match ← peek with
    | some c =>
      if isUriChar verbatim c then
        let b ← if c = '%' then escapedBytes else do
          skip 1
          pure (Text.bytes c.toString)
        return b ++ (← uriBytes verbatim steps)
      else return []
    | none => return []

/-- A tag after the part of it that was read as a handle; together they are not empty. -/
def uri (verbatim : Bool) (head : List Char) : Scan String := do
  let more ← uriBytes verbatim (← rest).length
  if head.isEmpty && more.isEmpty then throw .malformedTag
  return (Text.ofBytes? (Text.bytes (String.ofList (head.drop 1)) ++ more)).getD ""

/-- A handle: an exclamation mark, and perhaps a name and a second mark. -/
def tagHandle : Scan (List Char) := do
  unless ← at? '!' do throw .malformedTag
  skip 1
  let name ← takeWhile isNameChar
  if ← at? '!' then
    skip 1
    return '!' :: name ++ ['!']
  else return '!' :: name

/-- A directive after its percent sign. -/
def directive : Scan Token := do
  skip 1
  let name ← takeWhile isNameChar
  if name.isEmpty || !startsSpace (← rest) then throw .malformedDirective
  let token ←
    if name = "YAML".toList then do
      let _ ← takeWhile isBlank
      let major ← versionNumber
      unless ← at? '.' do throw .malformedDirective
      skip 1
      let minor ← versionNumber
      pure (Token.versionDirective major minor)
    else if name = "TAG".toList then do
      let _ ← takeWhile isBlank
      let handle ← tagHandle
      if handle ≠ ['!'] && handle.getLast? ≠ some '!' then throw .malformedDirective
      unless (← rest).head?.any isBlank do throw .malformedDirective
      let _ ← takeWhile isBlank
      let leader ← uri true []
      unless startsSpace (← rest) do throw .malformedDirective
      pure (Token.tagDirective (String.ofList handle) leader)
    else throw .unknownDirective
  endOfLine .malformedDirective
  return token

/-- The name of an anchor or an alias after its mark. -/
def anchorName : Scan String := do
  skip 1
  let name ← takeWhile isNameChar
  let cs ← rest
  if name.isEmpty || !(startsSpace cs ||
      cs.head?.any (· ∈ ['?', ':', ',', ']', '}', '%', '@', '\x60'])) then
    throw .malformedAnchor
  return String.ofList name

/-- A tag: in angle brackets, or a suffix after a handle. -/
def tag : Scan Token := do
  let token ← match ← rest with
    | '!' :: '<' :: _ => do
      skip 2
      let suffix ← uri true []
      unless ← at? '>' do throw .malformedTag
      skip 1
      pure (Token.tag "" suffix)
    | _ => do
      let handle ← tagHandle
      if 1 < handle.length && handle.getLast? = some '!' then do
        let suffix ← uri false []
        pure (Token.tag (String.ofList handle) suffix)
      else do
        let suffix ← uri false handle
        pure (if suffix.isEmpty then Token.tag "" "!" else Token.tag "!" suffix)
  let flow ← inFlow
  unless (flow && (← at? ',')) || startsSpace (← rest) do throw .malformedTag
  return token

end TenantAuth.Yaml.Scan

import TenantAuth.Yaml.Property
import TenantAuth.Yaml.Scalar

/-!
# From text to tokens

`tokenize` splits a stream into its tokens, those that show its indentation among them.
-/
namespace TenantAuth.Yaml

namespace Scan

/-- Ends the block collections and forgets the possible key, as a directive and the mark of a
document do. -/
def leaveBlocks : Scan Unit := do
  closeBlocks (-1)
  dropKey
  allowKey false

/-- An opening bracket. -/
def openFlow (t : Token) : Scan Unit := do
  saveKey
  modify fun s => { s with keys := none :: s.keys }
  allowKey true
  skip 1
  emit t

/-- A closing bracket. -/
def closeFlow (t : Token) : Scan Unit := do
  dropKey
  modify fun s => { s with keys := match s.keys with
    | _ :: outer :: more => outer :: more
    | keys => keys }
  allowKey false
  skip 1
  emit t

/-- The dash of a block entry. -/
def dash : Scan Unit := do
  unless ← inFlow do
    let s ← get
    unless s.keyAllowed do throw .entryNotAllowed
    openBlock s.column s.tokens.size .blockSequenceStart
  dropKey
  allowKey true
  skip 1
  emit .blockEntry

/-- The question mark of a key. -/
def questionMark : Scan Unit := do
  let flow ← inFlow
  unless flow do
    let s ← get
    unless s.keyAllowed do throw .keyNotAllowed
    openBlock s.column s.tokens.size .blockMappingStart
  dropKey
  allowKey (!flow)
  skip 1
  emit .key

/-- The colon of a value: what was remembered as a possible key becomes one. -/
def colon : Scan Unit := do
  let s ← get
  match s.keys with
  | some place :: outer =>
    emitAt place.token .key
    openBlock place.column place.token .blockMappingStart
    modify fun s => { s with keys := none :: outer }
    allowKey false
  | _ =>
    let flow ← inFlow
    unless flow do
      unless s.keyAllowed do throw .valueNotAllowed
      openBlock s.column s.tokens.size .blockMappingStart
    allowKey (!flow)
  skip 1
  emit .value

/-- A token that a key may begin with. -/
def startOfKey (token : Scan Token) : Scan Unit := do
  saveKey
  allowKey false
  emit (← token)

/-- A character that no plain scalar begins with. -/
def isIndicator (c : Char) : Bool :=
  c ∈ ['-', '?', ':', ',', '[', ']', '{', '}', '#', '&', '*', '!', '|', '>', '\x27', '"', '%', '@',
    '\x60']

/-- The next token, at a character that stands between none. -/
def token (c : Char) (more : List Char) : Scan Unit := do
  let flow ← inFlow
  let column := (← get).column
  let alone := startsSpace more
  if column = 0 && c = '%' then do
    leaveBlocks
    emit (← directive)
  else if column = 0 && startsMark '-' (c :: more) then do
    leaveBlocks
    skip 3
    emit .documentStart
  else if column = 0 && startsMark '.' (c :: more) then do
    leaveBlocks
    skip 3
    emit .documentEnd
  else if c = '[' then openFlow .flowSequenceStart
  else if c = '{' then openFlow .flowMappingStart
  else if c = ']' then closeFlow .flowSequenceEnd
  else if c = '}' then closeFlow .flowMappingEnd
  else if c = ',' then do
    dropKey
    allowKey true
    skip 1
    emit .flowEntry
  else if c = '-' && alone then dash
  else if c = '?' && (flow || alone) then questionMark
  else if c = ':' && (flow || alone) then colon
  else if c = '*' then startOfKey (do return .alias (← anchorName))
  else if c = '&' then startOfKey (do return .anchor (← anchorName))
  else if c = '!' then startOfKey tag
  else if (c = '|' || c = '>') && !flow then do
    dropKey
    allowKey true
    emit (← blockScalar (c = '|'))
  else if c = '\x27' || c = '"' then startOfKey (quotedScalar (c = '\x27'))
  else if (!isSpace c && !isIndicator c) || (c = '-' && !(more.head?.any isBlank)) ||
      (!flow && (c = '?' || c = ':') && !alone) then
    startOfKey plainScalar
  else throw .foreignCharacter

/-- All tokens from here on. -/
def tokens : Nat → Scan Unit
  | 0 => return
  | steps + 1 => do
    toNextToken ((← rest).length + 1)
    dropStaleKeys
    closeBlocks (← get).column
    match ← rest with
    | [] =>
      closeBlocks (-1)
      dropKey
    | c :: more =>
      token c more
      tokens steps

end Scan

/-- The tokens of a stream. -/
def tokenize (text : String) : Except Fault (List Token) := do
  let cs := match text.toList with
    | c :: more => if isByteOrderMark c then more else c :: more
    | [] => []
  if !cs.all isAllowed then throw .controlCharacter
  let cs := unifyBreaks cs
  let (_, s) ← (Scan.tokens (cs.length + 1)).run (Scan.start cs)
  return s.tokens.toList

end TenantAuth.Yaml

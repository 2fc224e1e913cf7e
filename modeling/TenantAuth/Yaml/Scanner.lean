import TenantAuth.Yaml.Token

/-!
# Stepping through a stream

Where a scanner stands, and its single steps. What looks like a scalar turns out to be a key only
at the colon after it; a place that may become a key is therefore remembered until a line break, a
distance of 1024 characters, or the next such place.
-/
namespace TenantAuth.Yaml

/-- A place at which a key may have begun. -/
structure KeyPlace where
  required : Bool
  /-- How many tokens stand before the place. -/
  token : Nat
  index : Nat
  line : Nat
  column : Nat

/-- Where a scanner stands. -/
structure Scanner where
  rest : List Char
  index : Nat
  line : Nat
  column : Nat
  /-- The column of the innermost block collection, -1 outside of all. -/
  indent : Int
  outerIndents : List Int
  /-- The places that may become keys, for the innermost bracket first and the block last. -/
  keys : List (Option KeyPlace)
  keyAllowed : Bool
  tokens : Array Token

/-- A step of scanning. -/
abbrev Scan (α : Type) := StateT Scanner (Except Fault) α

namespace Scan

/-- The scanner at the start of a text. -/
def start (text : List Char) : Scanner :=
  { rest := text, index := 0, line := 0, column := 0, indent := -1, outerIndents := [],
    keys := [none], keyAllowed := true, tokens := #[] }

/-- The text from here on. -/
def rest : Scan (List Char) := do return (← get).rest

/-- The next character. -/
def peek : Scan (Option Char) := do return (← get).rest.head?

/-- The next character is `c`. -/
def at? (c : Char) : Scan Bool := do return (← peek) = some c

/-- Passes over `n` characters of one line. -/
def skip (n : Nat) : Scan Unit := modify fun s =>
  let n := min n s.rest.length
  { s with rest := s.rest.drop n, index := s.index + n, column := s.column + n }

/-- Passes over a line break. -/
def skipBreak : Scan Unit := modify fun s =>
  { s with rest := s.rest.drop 1, index := s.index + 1, line := s.line + 1, column := 0 }

/-- Passes over the characters of one line that satisfy `p`, and gives them. -/
def takeWhile (p : Char → Bool) : Scan (List Char) := do
  let cs := (← rest).takeWhile p
  skip cs.length
  return cs

/-- Passes over blanks and a comment. -/
def skipBlanksAndComment : Scan Unit := do
  let _ ← takeWhile isBlank
  if ← at? '#' then
    let _ ← takeWhile (!isBreak ·)

/-- Passes over blanks and a comment to the end of the line, where nothing else may stand. -/
def endOfLine (fault : Fault) : Scan Unit := do
  skipBlanksAndComment
  match ← peek with
  | none => return
  | some c => if isBreak c then skipBreak else throw fault

/-- How many brackets are open. -/
def flowLevel : Scan Nat := do return (← get).keys.length - 1

/-- A bracket is open. -/
def inFlow : Scan Bool := do return (← flowLevel) ≠ 0

/-- Adds a token. -/
def emit (t : Token) : Scan Unit := modify fun s => { s with tokens := s.tokens.push t }

/-- Adds a token after the first `n` ones. -/
def emitAt (n : Nat) (t : Token) : Scan Unit := modify fun s =>
  { s with tokens := s.tokens.take n ++ #[t] ++ s.tokens.drop n }

/-- A block collection begins at `column`, with a token after the first `n` ones, if that is
further in than the collections around it. -/
def openBlock (column : Nat) (n : Nat) (t : Token) : Scan Unit := do
  let s ← get
  if !(← inFlow) && s.indent < column then
    set { s with outerIndents := s.indent :: s.outerIndents, indent := (column : Int) }
    emitAt n t

/-- The block collections further in than `column` end. -/
def closeBlocks (column : Int) : Scan Unit := do
  unless ← inFlow do
    let s ← get
    close s.outerIndents s
where
  close (outer : List Int) (s : Scanner) : Scan Unit :=
    match outer with
    | [] => set s
    | i :: outer =>
      if column < s.indent then
        close outer { s with indent := i, outerIndents := outer, tokens := s.tokens.push .blockEnd }
      else set s

/-- The innermost place that may become a key no longer may. -/
def dropKey : Scan Unit := do
  let s ← get
  match s.keys with
  | some k :: outer =>
    if k.required then throw .missingColon
    else set { s with keys := none :: outer }
  | _ => return

/-- A key may begin here. -/
def saveKey : Scan Unit := do
  let s ← get
  if s.keyAllowed then
    dropKey
    let place : KeyPlace :=
      { required := s.keys.length = 1 && s.indent = s.column, token := s.tokens.size,
        index := s.index, line := s.line, column := s.column }
    modify fun s => { s with keys := some place :: s.keys.tail }

/-- Forgets the places that can no longer become keys. -/
def dropStaleKeys : Scan Unit := do
  let s ← get
  let isStale (k : KeyPlace) : Bool := k.line < s.line || k.index + 1024 < s.index
  if s.keys.any fun k => k.any fun k => isStale k && k.required then throw .missingColon
  else set { s with keys := s.keys.map (Option.filter fun k => !isStale k) }

/-- Whether a key may begin at the next token. -/
def allowKey (allowed : Bool) : Scan Unit := modify fun s => { s with keyAllowed := allowed }

/-- Passes over what stands between tokens: blanks, comments and line breaks. Tabs do not count as
indentation. -/
def toNextToken : Nat → Scan Unit
  | 0 => return
  | steps + 1 => do
    let s ← get
    if s.index = 0 && (s.rest.head?.any isByteOrderMark) then skip 1
    let flow ← inFlow
    let _ ← takeWhile fun c => c = ' ' || (c = '\t' && (flow || !s.keyAllowed))
    if ← at? '#' then
      let _ ← takeWhile (!isBreak ·)
    match ← peek with
    | some c =>
      if isBreak c then
        skipBreak
        unless flow do allowKey true
        toNextToken steps
    | none => return

end Scan

end TenantAuth.Yaml

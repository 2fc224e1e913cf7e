import TenantAuth.Json.Fault

/-!
# Stepping through a text

A reader goes through a byte text and either gives a value or is refused; in both cases it leaves
a cursor behind, from which the rest of the text can be read. This file holds the single steps and
the ways to put them together.
-/
namespace TenantAuth.Json

/-- What is left of a text, and how much of it has been read. -/
structure Cursor where
  rest : Bytes
  offset : Nat
  deriving DecidableEq, Repr

/-- The start of a text. -/
def Cursor.start (input : Bytes) : Cursor := ⟨input, 0⟩

/-- A step through a text, which may be refused. -/
abbrev Reader (α : Type) := ExceptT Refusal (StateM Cursor) α

namespace Reader

/-- Nesting allowed of values that are kept, counted with the value itself. -/
def maxDepth : Nat := 128

/-- Refuses with a cause at the current offset. -/
def failHere (fault : Fault) : Reader α := do
  throw ⟨fault, some (← get).offset, []⟩

/-- Refuses with a cause at the byte to be read next. -/
def failNext (fault : Fault) : Reader α := do
  let c ← get
  throw ⟨fault, some (if c.rest.isEmpty then c.offset else c.offset + 1), []⟩

/-- Refuses with a cause that lies in the data; the place is given by the value around it. -/
def failData (fault : Fault) : Reader α := throw ⟨fault, none, []⟩

/-- The refusal of `r` placed at the current offset, if it has no place yet. -/
def located (r : Reader α) : Reader α := fun c =>
  match r c with
  | (.error e, c') => (.error { e with offset? := some (e.offset?.getD c'.offset) }, c')
  | done => done

/-- Reads a part of a value; a refusal tells which part. -/
def within (step : Step) (r : Reader α) : Reader α := fun c =>
  match r c with
  | (.error e, c') => (.error { e with path := step :: e.path }, c')
  | done => done

/-- Runs `close` after `body`, also when that was refused; the first refusal counts. -/
def closedBy (body : Reader α) (close : Reader Unit) : Reader α := fun c =>
  let (result, c₁) := body c
  let (closed, c₂) := close c₁
  match result, closed with
  | .error e, _ => (.error e, c₂)
  | .ok _, .error e => (.error e, c₂)
  | .ok a, .ok _ => (.ok a, c₂)

/-- What a reader gives, `none` if it was refused; the cursor moves as the reader moved it. -/
def attempt (r : Reader α) : Reader (Option α) := fun c =>
  match r c with
  | (.error _, c') => (.ok none, c')
  | (.ok a, c') => (.ok (some a), c')

/-- The next byte, left in place. -/
def peek : Reader (Option UInt8) := do return (← get).rest.head?

/-- Passes over one byte. -/
def advance : Reader Unit := modify fun c =>
  match c.rest with
  | [] => c
  | _ :: rest => ⟨rest, c.offset + 1⟩

/-- The next byte, passed over. -/
def next : Reader (Option UInt8) := do
  let b ← peek
  advance
  return b

/-- The blanks of JSON: space, tab and the two line breaks. -/
def isBlank (b : UInt8) : Bool := b = 0x20 || b = 0x0A || b = 0x09 || b = 0x0D

/-- Passes over blanks. -/
def skipBlanks : Reader Unit := modify fun c =>
  ⟨c.rest.dropWhile isBlank, c.offset + (c.rest.takeWhile isBlank).length⟩

/-- The next byte that is no blank, left in place. -/
def peekToken : Reader (Option UInt8) := do
  skipBlanks
  peek

/-- A number of steps that no loop over the rest of the text exceeds. -/
def stepsLeft : Reader Nat := do return 2 * (← get).rest.length + 2

end Reader

end TenantAuth.Json

import TenantAuth.Yaml.Scanner

/-!
# Scalars

The text of a scalar in each of its styles: a block of lines, quoted text, and plain text. Breaks
inside quoted and plain text are folded.
-/
namespace TenantAuth.Yaml.Scan

/-- The header of a block scalar: whether the breaks at its end are kept (`some true`) or dropped
(`some false`), and the digit of its indentation. -/
def blockHeader : Scan (Option Bool × Nat) := do
  let chomping : Scan (Option Bool) := do
    if ← at? '+' then do skip 1; return some true
    else if ← at? '-' then do skip 1; return some false
    else return none
  let digit : Scan Nat := do
    match ← peek with
    | some c =>
      if c.isDigit then
        if c = '0' then throw .malformedBlockHeader
        skip 1
        return c.toNat - '0'.toNat
      else return 0
    | none => return 0
  match ← chomping with
  | some keep => return (some keep, ← digit)
  | none =>
    let increment ← digit
    if increment = 0 then return (none, 0) else return (← chomping, increment)

/-- The indentation and the breaks of the blank lines before a line of a block scalar: the breaks,
and the greatest column reached. With indentation 0 every space counts as indentation. -/
def blankLines (indent : Nat) : Nat → Nat → Scan (List Char × Nat)
  | 0, deepest => return ([], deepest)
  | steps + 1, deepest => do
    let column := (← get).column
    let spaces := (← rest).takeWhile (· = ' ')
    skip (if indent = 0 then spaces.length else min spaces.length (indent - column))
    let column := (← get).column
    let deepest := max deepest column
    if (indent = 0 || column < indent) && (← at? '\t') then throw .tabInIndentation
    match ← peek with
    | some c =>
      if isBreak c then
        skipBreak
        let (breaks, deepest) ← blankLines indent steps deepest
        return (c :: breaks, deepest)
      else return ([], deepest)
    | none => return ([], deepest)

/-- The lines of a block scalar from here on, after `read` in reverse. A break between two lines
that do not start with a blank is folded, unless the scalar is literal. -/
def blockLines (literal : Bool) (indent : Nat) :
    Nat → (read : List Char) → (before : Option Char) → (blanks : List Char) →
      (blankLine : Bool) → Scan (List Char × Option Char × List Char)
  | 0, read, before, blanks, _ => return (read, before, blanks)
  | steps + 1, read, before, blanks, blankLine => do
    let s ← get
    if s.column ≠ indent || s.rest.isEmpty then return (read, before, blanks)
    let startsBlank := s.rest.head?.any isBlank
    let joined : List Char :=
      if !literal && before = some '\n' && !blankLine && !startsBlank then
        if blanks.isEmpty then [' '] else blanks
      else before.toList ++ blanks
    let line ← takeWhile (!isBreak ·)
    let read := line.reverse ++ (joined.reverse ++ read)
    let after ← peek
    if after.isSome then skipBreak
    let (blanks, _) ← blankLines indent ((← rest).length + 1) 0
    blockLines literal indent steps read after blanks startsBlank

/-- A block scalar. -/
def blockScalar (literal : Bool) : Scan Token := do
  skip 1
  let (chomping, increment) ← blockHeader
  endOfLine .malformedBlockHeader
  let s ← get
  let given : Nat := if increment = 0 then 0 else (max s.indent 0).toNat + increment
  let (blanks, deepest) ← blankLines given (s.rest.length + 1) 0
  let indent := if given = 0 then max (max deepest (s.indent + 1).toNat) 1 else given
  let (read, before, blanks) ← blockLines literal indent (s.rest.length + 1) [] none blanks false
  let tail : List Char := match chomping with
    | some false => []
    | none => before.toList
    | some true => before.toList ++ blanks
  return .scalar (if literal then .literal else .folded) (String.ofList (read.reverse ++ tail))

/-- What blanks and breaks between two runs of characters are: blanks only, or a break and the
breaks after it. -/
inductive Gap where
  | blanks (cs : List Char)
  | breaks (first : Option Char) (more : List Char)

/-- The characters that a gap stands for. -/
def Gap.text : Gap → List Char
  | .blanks cs => cs
  | .breaks none more => more
  | .breaks (some first) more => foldBreaks first more

/-- Adds a break to a gap, whose blanks do not count any more. -/
def Gap.addBreak (c : Char) : Gap → Gap
  | .blanks _ => .breaks (some c) []
  | .breaks first more => .breaks first (more ++ [c])

/-- Adds a blank to a gap; after a break it does not count. -/
def Gap.addBlank (c : Char) : Gap → Gap
  | .blanks cs => .blanks (cs ++ [c])
  | .breaks first more => .breaks first more

/-- The gap holds a break. -/
def Gap.hasBreak : Gap → Bool
  | .blanks _ => false
  | .breaks .. => true

/-- Passes over blanks and breaks. A tab after a break, left of `indent`, is refused. -/
def gap (indent : Int) : Nat → Gap → Scan Gap
  | 0, g => return g
  | steps + 1, g => do
    match ← peek with
    | some c =>
      if isBlank c then
        if g.hasBreak && c = '\t' && (← get).column < indent then throw .tabInIndentation
        skip 1
        gap indent steps (g.addBlank c)
      else if isBreak c then
        skipBreak
        gap indent steps (g.addBreak c)
      else return g
    | none => return g

/-- How many hexadecimal digits follow the letter of an escape. -/
def escapeDigits? : Char → Option Nat
  | 'x' => some 2
  | 'u' => some 4
  | 'U' => some 8
  | _ => none

/-- What the letter of an escape stands for. -/
def escapeLetter? (c : Char) : Option Nat :=
  match c with
  | '0' => some 0
  | 'a' => some 7
  | 'b' => some 8
  | 't' | '\t' => some 9
  | 'n' => some 10
  | 'v' => some 11
  | 'f' => some 12
  | 'r' => some 13
  | 'e' => some 27
  | ' ' => some 32
  | '"' => some 34
  | '/' => some 47
  | '\\' => some 92
  | 'N' => some 0x85
  | '_' => some 0xA0
  | 'L' => some 0x2028
  | 'P' => some 0x2029
  | _ => none

/-- The character that an escape stands for. -/
def escape : Scan Char := do
  match ← rest with
  | _ :: c :: more =>
    match escapeLetter? c, escapeDigits? c with
    | some n, _ =>
      skip 2
      return Char.ofNat n
    | none, some count =>
      let ds := more.take count
      match hexNumber? ds with
      | some n =>
        if ds.length < count || (0xD800 ≤ n && n ≤ 0xDFFF) || 0x10FFFF < n then
          throw .malformedEscape
        skip (2 + count)
        return Char.ofNat n
      | none => throw .malformedEscape
    | none, none => throw .unknownEscape
  | _ => throw .unknownEscape

/-- The characters of a quoted scalar up to a blank, a break or the closing quote, after `read` in
reverse; and whether an escaped break ended them. -/
def quotedRun (single : Bool) : Nat → List Char → Scan (List Char × Bool)
  | 0, read => return (read, false)
  | steps + 1, read => do
    match ← rest with
    | [] => return (read, false)
    | c :: more =>
      if isSpace c then return (read, false)
      else if single && c = '\x27' && more.head? = some '\x27' then
        skip 2
        quotedRun single steps ('\x27' :: read)
      else if c = (if single then '\x27' else '"') then return (read, false)
      else if !single && c = '\\' then
        if more.head?.any isBreak then
          skip 1
          skipBreak
          return (read, true)
        else
          let e ← escape
          quotedRun single steps (e :: read)
      else
        skip 1
        quotedRun single steps (c :: read)

/-- A quoted scalar from here on, after `read` in reverse. -/
def quotedText (single : Bool) : Nat → List Char → Scan (List Char)
  | 0, _ => throw .unexpectedEnd
  | steps + 1, read => do
    let s ← get
    if s.column = 0 && startsDocumentMark s.rest then throw .unexpectedDocumentMark
    if s.rest.isEmpty then throw .unexpectedEnd
    let (read, escapedBreak) ← quotedRun single (s.rest.length + 1) read
    if ← at? (if single then '\x27' else '"') then
      skip 1
      return read.reverse
    else
      let g ← gap 0 ((← rest).length + 1) (if escapedBreak then .breaks none [] else .blanks [])
      quotedText single steps (g.text.reverse ++ read)

/-- A quoted scalar. -/
def quotedScalar (single : Bool) : Scan Token := do
  skip 1
  let text ← quotedText single ((← rest).length + 1) []
  return .scalar (if single then .singleQuoted else .doubleQuoted) (String.ofList text)

/-- The characters of a plain scalar up to a blank, a break or an indicator that ends it. -/
def plainRun (flow : Bool) : List Char → Except Fault (List Char)
  | [] => .ok []
  | c :: rest =>
    if isSpace c then .ok []
    else if flow && c = ':' && rest.head?.any (· ∈ [',', '?', '[', ']', '{', '}']) then
      .error .unexpectedColon
    else if c = ':' && startsSpace rest then .ok []
    else if flow && c ∈ [',', '[', ']', '{', '}'] then .ok []
    else (plainRun flow rest).map (c :: ·)

/-- A plain scalar from here on, after `read` in reverse and a gap. -/
def plainText (flow : Bool) (indent : Int) : Nat → List Char → Gap → Scan (List Char × Gap)
  | 0, read, g => return (read, g)
  | steps + 1, read, g => do
    let s ← get
    if (s.column = 0 && startsDocumentMark s.rest) || s.rest.head? = some '#' then
      return (read, g)
    let run ← plainRun flow s.rest
    skip run.length
    let (read, g) := if run.isEmpty then (read, g)
      else (run.reverse ++ (g.text.reverse ++ read), Gap.blanks [])
    if (← peek).any isSpace then
      let g ← gap indent ((← rest).length + 1) g
      if !flow && (← get).column < indent then return (read, g)
      plainText flow indent steps read g
    else return (read, g)

/-- A plain scalar. -/
def plainScalar : Scan Token := do
  let s ← get
  let (text, g) ← plainText (← inFlow) (s.indent + 1) (s.rest.length + 1) [] (.blanks [])
  if g.hasBreak then allowKey true
  return .scalar .plain (String.ofList text.reverse)

end TenantAuth.Yaml.Scan

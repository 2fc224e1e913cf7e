import TenantAuth.Text.Blank
import TenantAuth.Text.Alphanumeric

/-!
# Environment files

Lines `NAME=value` that give variables to a process that does not have them. Values may be quoted,
over several lines too, and may name other variables after a dollar sign. Reading stops at the first
line that is not understood; what stands before it counts.
-/
namespace TenantAuth.EnvFile

/-- Variables with their values; the first one of a name counts. -/
abbrev Variables := List (String × String)

/-! ## Lines -/

/-- Where a line stands: outside of quotes, after a blank there, after a backslash, or in quotes. -/
inductive LineState where
  | plain
  | blank
  | escaped
  | weak
  | weakEscaped
  | strong
  | strongEscaped
  deriving DecidableEq

/-- The state after a character that opens a quote or an escape. -/
def LineState.opened? : Char → Option LineState
  | '\\' => some .escaped
  | '"' => some .weak
  | '\'' => some .strong
  | _ => none

/-- The state after a further character. -/
def LineState.after (s : LineState) (c : Char) : LineState :=
  match s with
  | .blank => (opened? c).getD .plain
  | .plain =>
    if Text.isBlank c && c ≠ '\n' && c ≠ '\r' then .blank else (opened? c).getD .plain
  | .escaped => .plain
  | .weak => if c = '\\' then .weakEscaped else if c = '"' then .plain else .weak
  | .weakEscaped => .weak
  | .strong => if c = '\\' then .strongEscaped else if c = '\'' then .plain else .strong
  | .strongEscaped => .strong

/-- A line up to a comment, and the state at its end if there is none. -/
def scanLine (s : LineState) : List Char → List Char × Option LineState
  | [] => ([], some s)
  | c :: rest =>
    if s = .blank && c = '#' then ([], none)
    else
      let (kept, stop) := scanLine (s.after c) rest
      (c :: kept, stop)

/-- A line without the line break at its end. -/
def withoutBreak (line : List Char) : List Char :=
  match line.reverse with
  | '\n' :: '\r' :: rest => rest.reverse
  | '\n' :: rest => rest.reverse
  | _ => line

/-- The line is a comment. -/
def isComment (line : List Char) : Bool := (line.dropWhile Text.isBlank).head? = some '#'

/-- Joins lines whose quotes go on, after the lines `pending`; nothing stands for what cannot be
read. -/
def joinLines (pending : List Char) (s : LineState) :
    List (Option (List Char)) → List (Option (List Char))
  | [] => if s = .plain then [] else [none]
  | none :: _ => [none]
  | some line :: rest =>
    if isComment (pending ++ line) then some [] :: joinLines [] .plain rest
    else
      match scanLine s line with
      | (kept, none) => some (pending ++ kept) :: joinLines [] .plain rest
      | (_, some .plain) => some (withoutBreak (pending ++ line)) :: joinLines [] .plain rest
      | (_, some s) => joinLines (pending ++ line) s rest

/-- The lines of a file with their line feeds. -/
def splitLines : Bytes → List Bytes
  | [] => []
  | 0x0A :: rest => [0x0A] :: splitLines rest
  | b :: rest =>
    match splitLines rest with
    | line :: more => if rest.head? = none then [[b]] else (b :: line) :: more
    | [] => [[b]]

/-- The mark of UTF-8 that a file may start with. -/
def byteOrderMark : Bytes := [0xEF, 0xBB, 0xBF]

/-- The lines of a file after joining. -/
def lines (file : Bytes) : List (Option (List Char)) :=
  let file := if byteOrderMark.isPrefixOf file then file.drop byteOrderMark.length else file
  joinLines [] .plain ((splitLines file).map fun l => (Text.ofBytes? l).map String.toList)

/-! ## Values -/

/-- Where reading a value stands. A name after a dollar sign may stand in quotes and in braces. -/
inductive Mode where
  | plain
  | weak
  | strong
  | escaped (quoted : Bool)
  | ending
  | name (quoted braces : Bool) (chars : List Char)

/-- The mode outside of names and escapes. -/
def Mode.back (quoted : Bool) : Mode := if quoted then .weak else .plain

/-- The value of the variable that is named. -/
def substituted (known : Variables) (chars : List Char) : List Char :=
  ((known.lookup (String.ofList chars)).getD "").toList

/-- Reads a value on after `out`. -/
def value (known : Variables) : Mode → List Char → List Char → Option (List Char)
  | .plain, out, [] | .ending, out, [] | .escaped false, out, [] => some out
  | .name false false chars, out, [] => some (out ++ substituted known chars)
  | _, _, [] => none
  | .ending, out, c :: rest =>
    if c = ' ' || c = '\t' then value known .ending out rest
    else if c = '#' then some out
    else none
  | .escaped quoted, out, c :: rest =>
    if c = '\\' || c = '\'' || c = '"' || c = '$' || c = ' ' then
      value known (.back quoted) (out ++ [c]) rest
    else if c = 'n' then value known (.back quoted) (out ++ ['\n']) rest
    else none
  | .strong, out, c :: rest =>
    if c = '\'' then value known .plain out rest else value known .strong (out ++ [c]) rest
  | .name quoted braces chars, out, c :: rest =>
    if Text.isAlphanumeric c then value known (.name quoted braces (chars ++ [c])) out rest
    else if braces then
      if c = '}' then value known (.back quoted) (out ++ substituted known chars) rest
      else value known (.name quoted braces (chars ++ [c])) out rest
    else if c = '{' && chars.isEmpty then value known (.name quoted true []) out rest
    else if c = '$' then
      value known (.name quoted false []) (out ++ substituted known chars) rest
    else value known (.back quoted) (out ++ substituted known chars ++ [c]) rest
  | .weak, out, c :: rest =>
    if c = '$' then value known (.name true false []) out rest
    else if c = '"' then value known .plain out rest
    else if c = '\\' then value known (.escaped true) out rest
    else value known .weak (out ++ [c]) rest
  | .plain, out, c :: rest =>
    if c = '$' then value known (.name false false []) out rest
    else if c = '\'' then value known .strong out rest
    else if c = '"' then value known .weak out rest
    else if c = '\\' then value known (.escaped false) out rest
    else if c = ' ' || c = '\t' then value known .ending out rest
    else value known .plain (out ++ [c]) rest

/-! ## Assignments -/

/-- A character that a name starts with. -/
def startsName (c : Char) : Bool := c.isAlpha || c = '_'

/-- A character of a name. -/
def isNameChar (c : Char) : Bool := c.isAlphanum || c = '_' || c = '.'

/-- A name and what follows it and blanks. -/
def name? (cs : List Char) : Option (List Char × List Char) :=
  if cs.head?.any startsName then
    some (cs.takeWhile isNameChar, (cs.dropWhile isNameChar).dropWhile Text.isBlank)
  else none

/-- A name, and what follows it and an equals sign; the word `export` may stand before them. -/
def assignment? (cs : List Char) : Option (List Char × List Char) := do
  let (name, rest) ← name? cs
  match rest with
  | '=' :: rest => return (name, rest)
  | _ =>
    if name = "export".toList then
      let (name, rest) ← name? rest
      match rest with
      | '=' :: rest => return (name, rest)
      | _ => none
    else none

/-- What a line says. -/
inductive Line where
  | nothing
  | assigns (name value : String)
  | unreadable

/-- Reads a line. -/
def Line.read (known : Variables) (line : List Char) : Line :=
  let cs := (Text.trimList Text.isBlank line)
  if cs.isEmpty || cs.head? = some '#' then .nothing
  else
    match assignment? cs with
    | none => .unreadable
    | some (name, rest) =>
      let rest := rest.dropWhile Text.isBlank
      if rest.isEmpty || rest.head? = some '#' then .assigns (String.ofList name) ""
      else
        match value known .plain [] rest with
        | some v => .assigns (String.ofList name) (String.ofList v)
        | none => .unreadable

/-- The variables after lines of a file. -/
def assign (known : Variables) : List (Option (List Char)) → Variables
  | [] => known
  | none :: _ => known
  | some line :: rest =>
    match Line.read known line with
    | .nothing => assign known rest
    | .unreadable => known
    | .assigns name v =>
      assign (if (known.lookup name).isSome then known else known ++ [(name, v)]) rest

/-- The variables of a process and those of a file that it does not have. -/
def extend (known : Variables) (file : Bytes) : Variables := assign known (lines file)

end TenantAuth.EnvFile

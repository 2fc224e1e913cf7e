import TenantAuth.Log.Level
import TenantAuth.Json.Binary64
import TenantAuth.Regex.Pattern

/-!
# Log directives

One rule of a log filter: `target[span{field=value}]=level`, of which each part may be left out.
-/
namespace TenantAuth

/-- Why there is no directive. All but the last are errors; a part that would begin or end inside a
character cannot be cut out, and the program panics there instead of returning. -/
inductive DirectiveFault where
  | malformed
  | unknownLevel
  | malformedPattern
  | unsupportedPattern
  | insideCharacter
  deriving DecidableEq

/-- The words for a fault. -/
def DirectiveFault.message : DirectiveFault → String
  | .malformed => "invalid filter directive"
  | .unknownLevel =>
    "error parsing level filter: expected one of \"off\", \"error\", \"warn\", \"info\", " ++
      "\"debug\", \"trace\", or a number 0-5"
  | .malformedPattern => "invalid field filter: error building NFA"
  | .unsupportedPattern => "invalid field filter: unsupported regex feature for DFAs"
  | .insideCharacter => "byte index is not a char boundary"

/-- A value that a field has to have. -/
inductive FieldValue where
  | bool (b : Bool)
  | float (x : Json.Binary64)
  | infinite (negative : Bool)
  | nan
  | natural (n : Nat)
  | negative (n : Int)
  | pattern (text : String)
  deriving DecidableEq

/-- A field that a span has to have, perhaps with a value. -/
structure FieldMatch where
  name : String
  value : Option FieldValue
  deriving DecidableEq

/-- A rule of a filter. -/
structure LogDirective where
  target : Option String
  span : Option String
  fields : List FieldMatch
  level : LogLevel
  deriving DecidableEq

namespace FieldValue

/-- The digits of a number without an exponent: `d * 10 ^ k`. -/
def positional (d : Nat) (k : Int) : Bytes :=
  let ds := Text.Decimal.ofNat d
  let zeros (n : Nat) : Bytes := List.replicate n 0x30
  let point : Int := ds.length + k
  if d = 0 then [0x30]
  else if 0 ≤ k then ds ++ zeros k.toNat
  else if 0 < point then ds.take point.toNat ++ 0x2E :: ds.drop point.toNat
  else 0x30 :: 0x2E :: zeros (-point).toNat ++ ds

/-- The digits before and after a point and the exponent of a decimal. -/
def decimalParts? (cs : List Char) : Option (Nat × Int) :=
  let number (ds : List Char) : Nat := ds.foldl (fun n d => n * 10 + (d.toNat - '0'.toNat)) 0
  let whole := cs.takeWhile Char.isDigit
  let rest := cs.drop whole.length
  let (fraction, rest) := match rest with
    | '.' :: more => (more.takeWhile Char.isDigit, more.dropWhile Char.isDigit)
    | _ => ([], rest)
  if whole.isEmpty && fraction.isEmpty then none
  else
    let significand := number (whole ++ fraction)
    let exponent : Option Int := match rest with
      | [] => some 0
      | e :: more =>
        if e = 'e' || e = 'E' then
          let (minus, ds) := match more with
            | '-' :: ds => (true, ds)
            | '+' :: ds => (false, ds)
            | ds => (false, ds)
          if ds.isEmpty || !ds.all Char.isDigit then none
          else some (if minus then -(number ds : Int) else number ds)
        else none
    exponent.map fun e => (significand, e - fraction.length)

/-- The number nearest to `d * 10 ^ e`; `none` if it is too large. -/
def nearest (d : Nat) (e : Int) : Option Json.Binary64 :=
  let magnitude : Int := e + (Text.Decimal.ofNat d).length
  if d = 0 ∨ magnitude < -400 then some (.zero false)
  else if 400 < magnitude then none
  else if 0 ≤ e then Json.Binary64.ofRatio (d * Json.Binary64.tenTo e.toNat) 1
  else Json.Binary64.ofRatio d (Json.Binary64.tenTo (-e).toNat)

/-- The floating-point number that a decimal or a word stands for. -/
def floatOfText? (s : String) : Option FieldValue :=
  let (minus, cs) := match s.toList with
    | '-' :: cs => (true, cs)
    | '+' :: cs => (false, cs)
    | cs => (false, cs)
  let word := Text.lowerAscii (String.ofList cs)
  if word = "nan" then some .nan
  else if word = "inf" || word = "infinity" then some (.infinite minus)
  else
    (decimalParts? cs).map fun (d, e) =>
      match nearest d e with
      | none => .infinite minus
      | some x => .float ⟨minus, x.mantissa, x.exponent⟩

/-- A floating-point number with the fewest digits that read back, without an exponent. -/
def floatText (x : Json.Binary64) : String :=
  let (d, k) := if x.isZero then (0, 0) else x.shortest
  let (d, k) := Json.Binary64.stripZeros 17 d k
  (if x.negative then "-" else "") ++ Text.ofAscii (positional d k)

/-- A pattern, which has to be a regular expression that does not ask for words of any language. -/
def patternOfText (s : String) : Except DirectiveFault FieldValue :=
  match Regex.Pattern.ofText? s with
  | none => .error .malformedPattern
  | some p => if p.regex.asksForWords then .error .unsupportedPattern else .ok (.pattern s)

/-- The value that a text stands for. -/
def ofText (s : String) : Except DirectiveFault FieldValue :=
  if s = "true" then .ok (.bool true)
  else if s = "false" then .ok (.bool false)
  else
    match Text.Decimal.parse? 0 uint64Max s, Text.Decimal.parse? int64Min int64Max s with
    | some n, _ => .ok (.natural n.toNat)
    | none, some n => .ok (.negative n)
    | none, none =>
      match floatOfText? s with
      | some v => .ok v
      | none => patternOfText s

/-- The value as a directive shows it. -/
def text : FieldValue → String
  | .bool b => if b then "true" else "false"
  | .float x => floatText x
  | .infinite minus => if minus then "-inf" else "inf"
  | .nan => "NaN"
  | .natural n => toString n
  | .negative n => toString n
  | .pattern t => t

/-- The place of the kind of value in the order of values. -/
def rank : FieldValue → Nat
  | .bool _ => 0
  | .infinite true => 1
  | .float _ => 2
  | .infinite false => 3
  | .nan => 4
  | .natural _ => 5
  | .negative _ => 6
  | .pattern _ => 7

end FieldValue

namespace FieldMatch

/-- The field that a text between braces names; what follows a second equals sign is dropped. -/
def ofText (s : String) : Except DirectiveFault FieldMatch :=
  match Text.parts '=' s with
  | name :: value :: _ => do return ⟨name, some (← FieldValue.ofText value)⟩
  | _ => .ok ⟨s, none⟩

/-- The field as a directive shows it. -/
def text (f : FieldMatch) : String :=
  match f.value with
  | some v => f.name ++ "=" ++ v.text
  | none => f.name

end FieldMatch

namespace LogDirective

/-- Where reading a directive stands; an offset says where the current part began. -/
inductive Stage where
  | start
  | levelOrTarget (start : Nat)
  | span (start : Nat)
  | field (start : Nat)
  | fields
  | target
  | level (start : Nat)

/-- The directive of which nothing has been read. -/
def blank : LogDirective := ⟨none, none, [], .trace⟩

/-- A character begins at the offset, or the text ends there. -/
def isBoundary (source : Bytes) (i : Nat) : Bool :=
  match source[i]? with
  | some b => b < 0x80 || 0xC0 ≤ b
  | none => i = source.length

/-- The bytes of `source` from `start` up to `stop` as a text. -/
def slice? (source : Bytes) (start stop : Nat) : Option String :=
  if isBoundary source start && isBoundary source stop then
    Text.ofBytes? ((source.take stop).drop start)
  else none

/-- The part of `source` from `start` up to `stop`, which is cut out of it. -/
def cut (source : Bytes) (start stop : Nat) : Except DirectiveFault String :=
  match slice? source start stop with
  | some part => .ok part
  | none => .error .insideCharacter

/-- The level that a text after the equals sign names; an empty one is the most detailed. -/
def levelOf (s : String) : Except DirectiveFault LogLevel :=
  if s.isEmpty then .ok .trace
  else
    match LogLevel.ofText? s with
    | some l => .ok l
    | none => .error .unknownLevel

/-- One character, which stands at offset `i` of the text without the blanks around it; parts are
cut out of `source`, the whole text, at the same offsets. -/
def step (source : Bytes) (d : LogDirective) (stage : Stage) (i : Nat) (c : Char) :
    Except DirectiveFault (LogDirective × Stage) :=
  match stage with
  | .start =>
    if c = '[' then .ok (d, .span (i + 1))
    else if c = '-' || c = ':' || c = '_' || Text.isAlphanumeric c then .ok (d, .levelOrTarget i)
    else .error .malformed
  | .levelOrTarget start =>
    if c = '=' then do return ({ d with target := some (← cut source start i) }, .level (i + 1))
    else if c = '[' then do return ({ d with target := some (← cut source start i) }, .span (i + 1))
    else .ok (d, stage)
  | .target => if c = '=' then .ok (d, .level (i + 1)) else .error .malformed
  | .span start =>
    if c = ']' then do return ({ d with span := some (← cut source start i) }, .target)
    else if c = '{' then do
      let name ← cut source start i
      return ({ d with span := if name.isEmpty then none else some name }, .field (i + 1))
    else .ok (d, stage)
  | .field start =>
    if c = '}' then do
      let f ← cut source start i
      if f.isEmpty then .error .malformed
      else
        let f ← FieldMatch.ofText f
        return ({ d with fields := d.fields ++ [f] }, .fields)
    else .ok (d, stage)
  | .fields => if c = ']' then .ok (d, .target) else .error .malformed
  | .level _ => .ok (d, stage)

/-- The directive after all characters. -/
def finish (source : Bytes) (d : LogDirective) : Stage → Except DirectiveFault LogDirective
  | .levelOrTarget start => do
    let s ← cut source start source.length
    match LogLevel.ofText? s with
    | some l => return { d with level := l, target := none }
    | none => return { d with level := .trace, target := some s }
  | .level start => do
    return { d with level := ← levelOf (← cut source start source.length) }
  | .target => .ok d
  | _ => .error .malformed

/-- Reads characters from offset `i` on. -/
def read (source : Bytes) :
    List Char → Nat → LogDirective → Stage → Except DirectiveFault LogDirective
  | [], _, d, stage => finish source d stage
  | c :: rest, i, d, stage => do
    let (d, stage) ← step source d stage i c
    read source rest (i + c.utf8Size) d stage

/-- Reads a directive. -/
def ofText (s : String) : Except DirectiveFault LogDirective :=
  read (Text.bytes s) (Text.trim s).toList 0 blank .start

/-- Texts with a comma between any two. -/
def commaSeparated (texts : List String) : String := ",".intercalate texts

/-- The directive as a filter shows it. -/
def text (d : LogDirective) : String :=
  let target := d.target.getD ""
  let fields := if d.fields.isEmpty then ""
    else "\x7b" ++ commaSeparated (d.fields.map FieldMatch.text) ++ "\x7d"
  let inner :=
    if d.span.isSome || !d.fields.isEmpty then "[" ++ d.span.getD "" ++ fields ++ "]" else ""
  let equals := if d.target.isSome || !inner.isEmpty then "=" else ""
  target ++ inner ++ equals ++ d.level.name

/-- The directive looks at spans or their fields. -/
def isDynamic (d : LogDirective) : Bool := d.span.isSome || !d.fields.isEmpty

/-- The directive can be decided without looking at spans and values. -/
def isStatic (d : LogDirective) : Bool := d.span.isNone && d.fields.all (·.value.isNone)

end LogDirective

end TenantAuth

import TenantAuth.Log.Directive

/-!
# Log filters

A list of directives, the most specific first: longer targets before shorter ones, and for equal
lengths in descending order. Of directives for the same thing the last one counts.
-/
namespace TenantAuth

/-- A set of directives in order, and the most detailed level that one of them ever had. -/
structure DirectiveSet where
  directives : List LogDirective
  maxLevel : LogLevel

/-- A filter: the directives that are decided at once, and those that look at spans. -/
structure LogFilter where
  statics : DirectiveSet
  dynamics : DirectiveSet

namespace DirectiveSet

/-- Numbers in ascending order. -/
def compareNat (a b : Nat) : Ordering := if a < b then .lt else if b < a then .gt else .eq

/-- Texts in the order of their bytes. -/
def compareText (a b : String) : Ordering :=
  if Text.Before a b then .lt else if Text.Before b a then .gt else .eq

/-- No value comes before each value. -/
def compareOption (compare : α → α → Ordering) : Option α → Option α → Ordering
  | none, none => .eq
  | none, some _ => .lt
  | some _, none => .gt
  | some a, some b => compare a b

/-- Lists item by item, a list before its continuations. -/
def compareList (compare : α → α → Ordering) : List α → List α → Ordering
  | [], [] => .eq
  | [], _ :: _ => .lt
  | _ :: _, [] => .gt
  | a :: as, b :: bs => (compare a b).then (compareList compare as bs)

/-- Values by kind, then numbers by size, patterns by their texts, and `false` before `true`. -/
def compareValue (a b : FieldValue) : Ordering :=
  (compareNat a.rank b.rank).then <| match a, b with
    | .bool x, .bool y => compareNat x.toNat y.toNat
    | .float x, .float y => x.compare y
    | .natural m, .natural n => compareNat m n
    | .negative m, .negative n => compare m n
    | .pattern x, .pattern y => compareText x y
    | _, _ => .eq

/-- Fields without a value come first. -/
def compareField (a b : FieldMatch) : Ordering :=
  (compareNat a.value.isSome.toNat b.value.isSome.toNat).then <|
    (compareText a.name b.name).then (compareOption compareValue a.value b.value)

/-- Directives by how much they leave open: the length of the target, whether a span is named, the
number of fields, and then their texts. -/
def compareDirective (a b : LogDirective) : Ordering :=
  let size (t : Option String) : Option Nat := t.map String.utf8ByteSize
  (compareOption compareNat (size a.target) (size b.target)).then <|
    (compareNat a.span.isSome.toNat b.span.isSome.toNat).then <|
    (compareNat a.fields.length b.fields.length).then <|
    (compareOption compareText a.target b.target).then <|
    (compareOption compareText a.span b.span).then <|
    compareList compareField a.fields b.fields

/-- Puts a directive at its place, in place of the one that stands there. -/
def insert (d : LogDirective) : List LogDirective → List LogDirective
  | [] => [d]
  | e :: rest =>
    match compareDirective d e with
    | .gt => d :: e :: rest
    | .eq => d :: rest
    | .lt => e :: insert d rest

/-- The set with a further directive. -/
def add (s : DirectiveSet) (d : LogDirective) : DirectiveSet :=
  ⟨insert d s.directives, s.maxLevel.max d.level⟩

/-- The set of a list of directives. -/
def ofList (ds : List LogDirective) : DirectiveSet := ds.foldl add ⟨[], .off⟩

end DirectiveSet

namespace LogFilter

/-- The filter of a list of directives. Those that name fields without values count as both
kinds. -/
def ofDirectives (ds : List LogDirective) : LogFilter :=
  let dynamics := ds.filter LogDirective.isDynamic
  let statics := ds.filter (!·.isDynamic) ++ dynamics.filter LogDirective.isStatic
  ⟨.ofList statics, .ofList dynamics⟩

/-- The filter that a text describes: directives with commas between them. -/
def ofText (s : String) : Except DirectiveFault LogFilter := do
  let parts := (Text.parts ',' s).filter (!·.isEmpty)
  return ofDirectives (← parts.mapM LogDirective.ofText)

/-- The filter in words. -/
def text (f : LogFilter) : String :=
  LogDirective.commaSeparated
    ((f.statics.directives ++ f.dynamics.directives).map LogDirective.text)

/-- The most detailed level that may be logged; a filter that looks at values may log all. -/
def maxLevel (f : LogFilter) : LogLevel :=
  if f.dynamics.directives.any fun d => d.fields.any (·.value.isSome) then .trace
  else f.statics.maxLevel.max f.dynamics.maxLevel

/-- The filter for a configured level: an override that is understood goes first. Where reading the
override panics, there is none. -/
def choose (override : Option String) (level : String) : Except DirectiveFault LogFilter :=
  match override.map ofText with
  | some (.ok f) => .ok f
  | some (.error .insideCharacter) => .error .insideCharacter
  | _ => ofText level

end LogFilter

end TenantAuth

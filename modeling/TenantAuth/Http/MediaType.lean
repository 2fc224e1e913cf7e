import TenantAuth.Http.Message

/-!
# Media types

The value of a `Content-Type` field, as far as telling JSON from other types takes it: a type, a
subtype, and parameters, which have to be well-formed.
-/
namespace TenantAuth.MediaType

/-- A character of a token. -/
def isTokenChar (c : Char) : Bool :=
  c.isAlphanum ||
    c ∈ ['!', '#', '$', '%', '&', '\x27', '*', '+', '-', '.', '^', '_', '\x60', '|', '~']

/-- A character inside a quoted parameter value. -/
def isQuotedChar (c : Char) : Bool := 31 < c.toNat && c.toNat ≠ 127

/-- What a parameter list goes on with: a name, the start or the rest of a value, the characters
inside quotes, or the blanks after a quoted value. -/
inductive Expect where
  | name (empty : Bool)
  | value (empty : Bool)
  | quotedValue (empty : Bool)
  | afterQuotes

/-- The parameters after a semicolon are well-formed; there may be none. -/
def parametersOk : Expect → List Char → Bool
  | .name empty, [] => empty
  | .name empty, c :: rest =>
    if c = ' ' && empty then parametersOk (.name true) rest
    else if isTokenChar c then parametersOk (.name false) rest
    else if c = '=' && !empty then parametersOk (.value true) rest
    else false
  | .value _, [] => true
  | .value empty, c :: rest =>
    if c = '"' && empty then parametersOk (.quotedValue true) rest
    else if isTokenChar c then parametersOk (.value false) rest
    else if c = ';' && !empty then parametersOk (.name true) rest
    else false
  | .quotedValue _, [] => false
  | .quotedValue empty, c :: rest =>
    if c = '"' && !empty then parametersOk .afterQuotes rest
    else if isQuotedChar c then parametersOk (.quotedValue false) rest
    else false
  | .afterQuotes, [] => true
  | .afterQuotes, c :: rest =>
    if c = ';' then parametersOk (.name true) rest
    else if c = ' ' then parametersOk .afterQuotes rest
    else false

/-- The part of a subtype before its last plus sign, and the part after it; a plus sign that
begins the subtype joins nothing. -/
def splitSuffix (subtype : List Char) : List Char × Option (List Char) :=
  let suffix := (subtype.reverse.takeWhile (· ≠ '+')).reverse
  let main := subtype.take (subtype.length - suffix.length - 1)
  if suffix.length < subtype.length && !main.isEmpty then (main, some suffix) else (subtype, none)

/-- The field value names JSON: `application/json`, or an application type with the suffix
`json`. -/
def isJson (value : String) : Bool :=
  let cs := (Text.lowerAscii value).toList
  let main := cs.takeWhile isTokenChar
  match cs.drop main.length with
  | '/' :: rest =>
    let subtype := rest.takeWhile isTokenChar
    let parameters := match rest.drop subtype.length with
      | [] => true
      | ';' :: parameters => parametersOk (.name true) parameters
      | _ => false
    let (name, suffix) := splitSuffix subtype
    main = "application".toList && parameters &&
      (name = "json".toList || suffix = some "json".toList)
  | _ => false

end TenantAuth.MediaType

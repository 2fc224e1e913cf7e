import TenantAuth.Regex.Unicode.Break

/-!
# Names of classes

Classes of characters by the names that patterns use: one letter, a name, or a property and its
value.
-/
namespace TenantAuth.CharSet

/-- A name in lower case without blanks, hyphens, underscores and a leading `is`; the name `isc` is
spelled like one with that word before it, but is not. -/
def plainName (name : List Char) : String :=
  let (hasWord, rest) := match name with
    | i :: s :: rest => if i.toLower = 'i' && s.toLower = 's' then (true, rest) else (false, name)
    | _ => (false, name)
  let kept := rest.filter fun c => c.toNat < 0x80 && c ≠ ' ' && c ≠ '_' && c ≠ '-'
  let plain := kept.map Char.toLower
  if hasWord && plain = ['c'] then "isc" else String.ofList plain

/-- The class of a name: a property, a category or a script. Three abbreviations are of categories
only. -/
def named? (name : List Char) : Option CharSet :=
  let n := plainName name
  let property := if n ∈ ["cf", "sc", "lc"] then none else property? n
  property <|> category? n <|> script? n

/-- The class of a value of a property. -/
def valued? (property value : List Char) : Option CharSet :=
  let v := plainName value
  match plainName property with
  | "gc" | "generalcategory" => category? v
  | "sc" | "script" => script? v
  | "scx" | "scriptextensions" => scriptExtension? v
  | "age" => age? v
  | "gcb" | "graphemeclusterbreak" => breakClass? graphemeBreaks v
  | "sb" | "sentencebreak" => breakClass? sentenceBreaks v
  | "wb" | "wordbreak" => breakClass? wordBreaks v
  | _ => none

/-- The text before a mark and the text after it. -/
def cut? (mark : List Char) : List Char → Option (List Char × List Char)
  | [] => none
  | c :: cs =>
    if mark.isPrefixOf (c :: cs) then some ([], (c :: cs).drop mark.length)
    else (cut? mark cs).map fun (before, after) => (c :: before, after)

/-- The class that the text between braces denotes. -/
def described? (text : List Char) : Option CharSet :=
  match cut? ['!', '='] text <|> cut? [':'] text <|> cut? ['='] text with
  | some (property, value) => valued? property value
  | none => named? text

/-! ## Classes of ASCII characters -/

/-- The classes of ASCII characters by name. -/
def asciiClasses : List (String × List (Nat × Nat)) := [
  ("alnum", [(0x30, 0x39), (0x41, 0x5A), (0x61, 0x7A)]),
  ("alpha", [(0x41, 0x5A), (0x61, 0x7A)]),
  ("ascii", [(0x00, 0x7F)]),
  ("blank", [(0x09, 0x09), (0x20, 0x20)]),
  ("cntrl", [(0x00, 0x1F), (0x7F, 0x7F)]),
  ("digit", [(0x30, 0x39)]),
  ("graph", [(0x21, 0x7E)]),
  ("lower", [(0x61, 0x7A)]),
  ("print", [(0x20, 0x7E)]),
  ("punct", [(0x21, 0x2F), (0x3A, 0x40), (0x5B, 0x60), (0x7B, 0x7E)]),
  ("space", [(0x09, 0x0D), (0x20, 0x20)]),
  ("upper", [(0x41, 0x5A)]),
  ("word", [(0x30, 0x39), (0x41, 0x5A), (0x5F, 0x5F), (0x61, 0x7A)]),
  ("xdigit", [(0x30, 0x39), (0x41, 0x46), (0x61, 0x66)])]

/-- The class of ASCII characters of a name. -/
def asciiClass? (name : String) : Option CharSet := (asciiClasses.lookup name).map ofRanges

end TenantAuth.CharSet

import TenantAuth.Settings.Basic
import TenantAuth.Yaml.Node
import TenantAuth.Json.Value

/-!
# Settings in YAML

Reads settings from the tree of a document. Texts are taken as they are written, whatever they look
like; numbers and nulls have to be written plain. Unknown keys are passed over, and a field that is
given twice makes the document unreadable.
-/
namespace TenantAuth

namespace Yaml

/-- A reader of one node of a document. -/
abbrev NodeReader (α : Type) := Document → Node → Option α

namespace NodeReader

/-- The text of a scalar, in any style and with any tag. -/
def text : NodeReader String := fun d n =>
  match d.resolve n with
  | some (.scalar _ _ _ s) => some s
  | _ => none

/-- The words for null. -/
def isNullWord (s : String) : Bool := s = "null" || s = "Null" || s = "NULL" || s = "~"

/-- The tag of null. -/
def nullTag : String := "tag:yaml.org,2002:null"

/-- The tag of integers. -/
def intTag : String := "tag:yaml.org,2002:int"

/-- A text, or nothing where a plain scalar is empty or a word for null. -/
def optionalText : NodeReader (Option String) := fun d n =>
  match d.resolve n with
  | some (.scalar _ tag style s) =>
    if style ≠ .plain then some (some s)
    else
      match tag with
      | some t =>
        if t = nullTag then (if isNullWord s then some none else none) else some (some s)
      | none => if s.isEmpty || isNullWord s then some none else some (some s)
  | _ => none

/-- The value of a digit in bases up to 16. -/
def digitValue? (base : Nat) (c : Char) : Option Nat :=
  let v := if c.isDigit then c.toNat - '0'.toNat
    else if 'a' ≤ c && c ≤ 'f' then c.toNat - 'a'.toNat + 10
    else if 'A' ≤ c && c ≤ 'F' then c.toNat - 'A'.toNat + 10
    else base
  if v < base then some v else none

/-- The number that digits of a base stand for. -/
def numeral? (base : Nat) : List Char → Option Nat
  | [] => none
  | ds => ds.foldlM (fun n c => (digitValue? base c).map (n * base + ·)) 0

/-- The digits of a numeral without its sign and the mark of its base, with the base. -/
def baseOf : List Char → Nat × List Char
  | '0' :: 'x' :: ds => (16, ds)
  | '0' :: 'o' :: ds => (8, ds)
  | '0' :: 'b' :: ds => (2, ds)
  | ds => (10, ds)

/-- A decimal numeral that starts with a zero and goes on is a text. -/
def hasLeadingZero : List Char → Bool
  | '0' :: _ :: _ => true
  | _ => false

/-- The integer that a plain scalar stands for, if it fits 64 bits. -/
def integer? (s : String) : Option Instant := do
  let (negative, ds) := match s.toList with
    | '-' :: ds => (true, ds)
    | '+' :: ds => (false, ds)
    | ds => (false, ds)
  let (base, digits) := baseOf ds
  if base = 10 && hasLeadingZero digits then none
  else
    let n ← numeral? base digits
    Instant.ofInt? (if negative then -(n : Int) else n)

/-- An integer: a plain scalar, or a literal one with the tag of integers. -/
def integer : NodeReader Instant := fun d n =>
  match d.resolve n with
  | some (.scalar _ tag style s) =>
    if style = .plain || (style = .literal && tag = some intTag) then integer? s else none
  | _ => none

/-- A unit value: a plain scalar that is empty or a word for null. -/
def isUnit : ScalarStyle → String → Bool
  | .plain, s => s.isEmpty || isNullWord s
  | _, _ => false

/-- One of the variants with the given names: its name as a text, or as a local tag. -/
def variant (known : List (String × α)) : NodeReader α := fun d n =>
  match d.resolve n with
  | some (.scalar _ tag style s) =>
    match (tag.getD "").toList with
    | '!' :: name => if isUnit style s then known.lookup (String.ofList name) else none
    | _ => known.lookup s
  | _ => none

/-- The entries of a mapping with their keys as texts; a plain scalar that is empty has none. -/
def entries : NodeReader (List (String × Node)) := fun d n =>
  match d.resolve n with
  | some (.mapping _ _ es) => es.mapM fun (k, v) => (text d k).map fun name => (name, v)
  | some (.scalar _ _ .plain "") => some []
  | _ => none

/-- The value of the field `name` among entries, its default if there is none. -/
def fieldOr (name : String) (fallback : α) (r : NodeReader α) (d : Document)
    (es : List (String × Node)) : Option α :=
  match es.filter fun e => e.1 = name with
  | [] => some fallback
  | [e] => r d e.2
  | _ => none

end NodeReader

end Yaml

open Yaml.NodeReader

/-- Reads the section of the service. -/
def ServiceSettings.ofNode : Yaml.NodeReader ServiceSettings := fun d n => do
  let es ← entries d n
  let s := ServiceSettings.default
  return {
    name := ← fieldOr "name" s.name text d es
    environment := ← fieldOr "environment" s.environment text d es
    bindAddr := ← fieldOr "bind_addr" s.bindAddr text d es }

/-- Reads the section of the log. -/
def LogSettings.ofNode : Yaml.NodeReader LogSettings := fun d n => do
  let es ← entries d n
  let s := LogSettings.default
  return {
    level := ← fieldOr "level" s.level text d es
    format := ← fieldOr "format" s.format (variant LogFormat.names) d es }

/-- Reads the section of the tokens. -/
def AuthSettings.ofNode : Yaml.NodeReader AuthSettings := fun d n => do
  let es ← entries d n
  let s := AuthSettings.default
  return {
    jwtSecret := ← fieldOr "jwt_secret" s.jwtSecret text d es
    accessTtlSecs := ← fieldOr "access_ttl_secs" s.accessTtlSecs integer d es
    refreshTtlSecs := ← fieldOr "refresh_ttl_secs" s.refreshTtlSecs integer d es }

/-- Reads the section of the mutual-TLS files. -/
def TlsSettings.ofNode : Yaml.NodeReader TlsSettings := fun d n => do
  let es ← entries d n
  return {
    certPath := ← fieldOr "cert_path" none optionalText d es
    keyPath := ← fieldOr "key_path" none optionalText d es
    caPath := ← fieldOr "ca_path" none optionalText d es }

/-- Reads a provider. -/
def OAuthProvider.ofNode : Yaml.NodeReader OAuthProvider := fun d n => do
  let es ← entries d n
  return {
    clientId := ← fieldOr "client_id" "" text d es
    clientSecret := ← fieldOr "client_secret" "" text d es
    redirectUrl := ← fieldOr "redirect_url" "" text d es }

/-- Reads the providers, of which the last of each name counts. -/
def Settings.providersOfNode : Yaml.NodeReader (List (String × OAuthProvider)) := fun d n => do
  let es ← entries d n
  let ps ← es.mapM fun (name, v) => (OAuthProvider.ofNode d v).map fun p => (name, p)
  return Json.sortMembers ps

/-- Reads settings. -/
def Settings.ofNode : Yaml.NodeReader Settings := fun d n => do
  let es ← entries d n
  return {
    service := ← fieldOr "service" .default ServiceSettings.ofNode d es
    log := ← fieldOr "log" .default LogSettings.ofNode d es
    auth := ← fieldOr "auth" .default AuthSettings.ofNode d es
    tls := ← fieldOr "tls" .default TlsSettings.ofNode d es
    oauth := ← fieldOr "oauth" [] Settings.providersOfNode d es }

/-- The settings in a text, none if it is not readable. -/
def Settings.ofYaml (source : String) : Option Settings :=
  match Yaml.Document.parse source with
  | .ok d => Settings.ofNode d d.root
  | .error _ => none

end TenantAuth

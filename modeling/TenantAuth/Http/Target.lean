import TenantAuth.Text.Utf8

/-!
# Request targets

What a request asks for: a path, perhaps after a scheme and an authority and before a query and a
fragment; the asterisk; or an authority alone.
-/
namespace TenantAuth.Target

/-- The text up to its query or fragment. -/
def withoutQuery (cs : List Char) : List Char := cs.takeWhile fun c => c ≠ '?' && c ≠ '#'

/-- What follows a scheme and its `://`. -/
def afterScheme? : List Char → Option (List Char)
  | ':' :: '/' :: '/' :: rest => some rest
  | c :: rest => if c.isAlphanum || c = '+' || c = '-' || c = '.' then afterScheme? rest else none
  | [] => none

/-- The path of a target. An authority after a scheme is passed over, and an empty path after it is
the root; an authority alone has no path. -/
def path (target : String) : String :=
  match target.toList with
  | '/' :: rest => String.ofList (withoutQuery ('/' :: rest))
  | ['*'] => "*"
  | cs =>
    match afterScheme? cs with
    | none => ""
    | some rest =>
      match withoutQuery (rest.dropWhile fun c => c ≠ '/' && c ≠ '?' && c ≠ '#') with
      | [] => "/"
      | p => String.ofList p

end TenantAuth.Target

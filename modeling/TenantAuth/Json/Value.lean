import TenantAuth.Json.Binary64

/-!
# JSON values

A JSON value. The members of an object stand in the order in which they are written: a record
lists them in the order of its fields; in free-form data they are sorted by the bytes of their
names, and of members with one name the last is kept (`Json.sortMembers`).
-/
namespace TenantAuth

/-- A JSON value. Integers of the 64-bit ranges are exact, other numbers are floating-point. -/
inductive Json where
  | null
  | bool (b : Bool)
  | int (n : Int)
  | float (x : Json.Binary64)
  | str (s : String)
  | arr (items : List Json)
  | obj (members : List (String × Json))
  deriving Inhabited

namespace Json

/-- `members` with `name` set to `value`, at its place in the order of names. -/
def setMember (name : String) (value : α) : List (String × α) → List (String × α)
  | [] => [(name, value)]
  | (n, v) :: rest =>
    if Text.Before name n then (name, value) :: (n, v) :: rest
    else if name = n then (name, value) :: rest
    else (n, v) :: setMember name value rest

/-- The members sorted by name; of members with one name the last is kept. -/
def sortMembers (members : List (String × α)) : List (String × α) :=
  members.foldl (fun sorted m => setMember m.1 m.2 sorted) []

/-- The member `name` of an object. -/
def get? (name : String) : Json → Option Json
  | .obj members => members.lookup name
  | _ => none

end Json

end TenantAuth

import TenantAuth.Text.Utf8

/-!
# Role sets

A finite set of role names, kept as the list of its members in the order of their bytes. Equal sets
are equal lists: `RoleSet.ext` needs only the members, and `mem_ofList` says that building a set
from a list keeps exactly the names in it.
-/
namespace TenantAuth

/-- A set of role names. -/
@[ext]
structure RoleSet where
  toList : List String
  sorted : toList.Pairwise Text.Before
  deriving DecidableEq

namespace RoleSet

/-- Puts a name at its place in a sorted list, unless it is there already. -/
def insertSorted (role : String) : List String → List String
  | [] => [role]
  | r :: rest =>
    if Text.Before role r then role :: r :: rest
    else if role = r then r :: rest
    else r :: insertSorted role rest

theorem mem_insertSorted {role r : String} {rs : List String} :
    r ∈ insertSorted role rs ↔ r = role ∨ r ∈ rs := by
  induction rs with
  | nil => simp [insertSorted]
  | cons x rest ih =>
    unfold insertSorted
    split
    · simp
    · split
      · rename_i h
        subst h
        simp
      · simp only [List.mem_cons, ih]
        constructor
        · rintro (h | h | h) <;> simp [h]
        · rintro (h | h | h) <;> simp [h]

theorem sorted_insertSorted {role : String} {rs : List String}
    (h : rs.Pairwise Text.Before) : (insertSorted role rs).Pairwise Text.Before := by
  induction rs with
  | nil => simp [insertSorted]
  | cons x rest ih =>
    obtain ⟨first, others⟩ := List.pairwise_cons.1 h
    unfold insertSorted
    split
    · rename_i before
      refine List.pairwise_cons.2 ⟨fun r hr => ?_, h⟩
      rcases List.mem_cons.1 hr with rfl | hr
      · exact before
      · exact before.trans (first r hr)
    · split
      · exact h
      · rename_i before ne
        refine List.pairwise_cons.2 ⟨fun r hr => ?_, ih others⟩
        rcases mem_insertSorted.1 hr with rfl | hr
        · exact Text.Before.total before ne
        · exact first r hr

/-- The set without members. -/
def empty : RoleSet := ⟨[], List.Pairwise.nil⟩

/-- The set with one more member. -/
def insert (roles : RoleSet) (role : String) : RoleSet :=
  ⟨insertSorted role roles.toList, sorted_insertSorted roles.sorted⟩

/-- The set of the names in a list. -/
def ofList (names : List String) : RoleSet := names.foldl insert empty

instance : Membership String RoleSet := ⟨fun roles role => role ∈ roles.toList⟩

instance (role : String) (roles : RoleSet) : Decidable (role ∈ roles) :=
  inferInstanceAs (Decidable (role ∈ roles.toList))

theorem mem_insert {roles : RoleSet} {role r : String} :
    r ∈ roles.insert role ↔ r = role ∨ r ∈ roles := mem_insertSorted

theorem mem_foldl_insert {names : List String} {roles : RoleSet} {r : String} :
    r ∈ names.foldl insert roles ↔ r ∈ names ∨ r ∈ roles := by
  induction names generalizing roles with
  | nil => simp
  | cons n rest ih =>
    rw [List.foldl_cons, ih, mem_insert, List.mem_cons]
    constructor
    · rintro (h | h | h) <;> simp [h]
    · rintro ((h | h) | h) <;> simp [h]

theorem mem_ofList {names : List String} {r : String} : r ∈ ofList names ↔ r ∈ names := by
  rw [ofList, mem_foldl_insert]
  exact or_iff_left List.not_mem_nil

/-- The name is a member. -/
def contains (roles : RoleSet) (role : String) : Bool := decide (role ∈ roles)

/-- How many members the set has. -/
def size (roles : RoleSet) : Nat := roles.toList.length

/-- The set has no members. -/
def isEmpty (roles : RoleSet) : Bool := roles.toList.isEmpty

/-- One of the required names is a member. -/
def hasAny (roles : RoleSet) (required : List String) : Bool := required.any roles.contains

/-- All of the required names are members. -/
def hasAll (roles : RoleSet) (required : List String) : Bool := required.all roles.contains

end RoleSet

end TenantAuth

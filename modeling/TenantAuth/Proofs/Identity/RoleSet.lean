import Mathlib.Data.Finset.Card
import TenantAuth.Identity.RoleSet

/-!
# Role sets and their lists

A role set is determined by its members: lists with the same names in them make one set
(`ofList_eq_ofList`), and building a set from the list of a set gives the set back. What a set is
asked for are members as well (`hasAny_eq_true`, `hasAll_eq_true`).
-/
namespace TenantAuth.RoleSet

/-- Names that stand in ascending order are all different. -/
theorem nodup_toList (roles : RoleSet) : roles.toList.Nodup := by
  refine roles.sorted.imp fun {s t} hst heq => ?_
  rw [heq] at hst
  exact Text.Before.irrefl t hst

theorem ext_mem {roles roles' : RoleSet} (h : ∀ r, r ∈ roles.toList ↔ r ∈ roles'.toList) :
    roles = roles' := by
  have hperm : roles.toList.Perm roles'.toList :=
    (List.perm_ext_iff_of_nodup roles.nodup_toList roles'.nodup_toList).2 h
  refine RoleSet.ext (hperm.eq_of_pairwise ?_ roles.sorted roles'.sorted)
  intro s t _ _ hst hts
  exact absurd (hst.trans hts) (Text.Before.irrefl s)

/-- A set holds the names of the list that it is made from. -/
theorem mem_toList_ofList {names : List String} {r : String} :
    r ∈ (ofList names).toList ↔ r ∈ names := mem_ofList

/-- The list of a set is the list of the same set. -/
theorem ofList_toList (roles : RoleSet) : ofList roles.toList = roles :=
  ext_mem fun _ => mem_toList_ofList

/-- The order and the repetitions of the names in a list do not matter to its set, and all else
does. -/
theorem ofList_eq_ofList {names names' : List String} :
    ofList names = ofList names' ↔ ∀ r, r ∈ names ↔ r ∈ names' := by
  constructor
  · intro h r
    rw [← mem_toList_ofList, h, mem_toList_ofList]
  · intro h
    apply ext_mem
    intro r
    rw [mem_toList_ofList, mem_toList_ofList, h r]

/-- A set has as many members as the list has different names. -/
theorem size_ofList (names : List String) : (ofList names).size = names.toFinset.card := by
  have hmembers : (ofList names).toList.toFinset = names.toFinset := by
    ext r
    rw [List.mem_toFinset, List.mem_toFinset, mem_toList_ofList]
  rw [size, ← List.toFinset_card_of_nodup (ofList names).nodup_toList, hmembers]

/-! ## Questions -/

/-- A set has any of the roles if one of them is in it. -/
theorem hasAny_eq_true {roles : RoleSet} {required : List String} :
    roles.hasAny required = true ↔ ∃ r ∈ required, r ∈ roles := by
  simp [hasAny, contains]

/-- A set has all of the roles if each of them is in it. -/
theorem hasAll_eq_true {roles : RoleSet} {required : List String} :
    roles.hasAll required = true ↔ ∀ r ∈ required, r ∈ roles := by
  simp [hasAll, contains]

end TenantAuth.RoleSet

import TenantAuth.Gate.RoleGate
import TenantAuth.Gate.Context
import TenantAuth.Proofs.Identity.RoleSet

/-!
# What a role gate decides by

A gate looks at the members of two sets and at nothing else. It keeps the required roles as a set,
whereas a context is asked with the list as it was given, so that the two are compared through what
they say of members (`permits_anyOf`, `permits_allOf`). From there it follows how a decision changes
with the roles that are required and with those that are held.
-/
namespace TenantAuth.RoleGate

variable {required required' : List String} {p p' : Principal}

/-- A gate that takes one of the roles permits whoever holds one of them. -/
theorem permits_anyOf :
    (anyOf required).permits (some p) = true ↔ ∃ r ∈ required, r ∈ p.roles := by
  show p.roles.hasAny (RoleSet.ofList required).toList = true ↔ _
  simp only [RoleSet.hasAny_eq_true, RoleSet.mem_toList_ofList]

/-- A gate that takes all of the roles permits whoever holds each of them. -/
theorem permits_allOf :
    (allOf required).permits (some p) = true ↔ ∀ r ∈ required, r ∈ p.roles := by
  show p.roles.hasAll (RoleSet.ofList required).toList = true ↔ _
  simp only [RoleSet.hasAll_eq_true, RoleSet.mem_toList_ofList]

/-! ## The same decision in a context -/

/-- The gate decides as the context would that is asked for one of the roles. -/
theorem permits_anyOf_eq {c : Context} (hc : c.principal = some p) :
    (anyOf required).permits (some p) = c.hasAnyRole required := by
  rw [Bool.eq_iff_iff, permits_anyOf, Context.hasAnyRole, RoleSet.hasAny_eq_true, Context.roles, hc]

/-- The gate decides as the context would that is asked for all of the roles. -/
theorem permits_allOf_eq {c : Context} (hc : c.principal = some p) :
    (allOf required).permits (some p) = c.hasAllRoles required := by
  rw [Bool.eq_iff_iff, permits_allOf, Context.hasAllRoles, RoleSet.hasAll_eq_true, Context.roles,
    hc]

/-! ## More roles, and more required ones -/

/-- Whoever holds more roles, or is asked for more of which one will do, is let through as
before. -/
theorem permits_anyOf_mono (hrequired : required ⊆ required') (hheld : ∀ r ∈ p.roles, r ∈ p'.roles)
    (h : (anyOf required).permits (some p) = true) :
    (anyOf required').permits (some p') = true := by
  obtain ⟨r, hr, hmem⟩ := permits_anyOf.1 h
  exact permits_anyOf.2 ⟨r, hrequired hr, hheld r hmem⟩

/-- Whoever holds more roles, or is asked for fewer of them all, is let through as before. -/
theorem permits_allOf_mono (hrequired : required' ⊆ required) (hheld : ∀ r ∈ p.roles, r ∈ p'.roles)
    (h : (allOf required).permits (some p) = true) :
    (allOf required').permits (some p') = true := by
  apply permits_allOf.2
  intro r hr
  exact hheld r (permits_allOf.1 h r (hrequired hr))

/-- How gates with a list of required roles decide on a principal, and on nobody. -/
structure DecidesByMembers (required : List String) (p : Principal) : Prop where
  any_iff : (anyOf required).permits (some p) = true ↔ ∃ r ∈ required, r ∈ p.roles
  all_iff : (allOf required).permits (some p) = true ↔ ∀ r ∈ required, r ∈ p.roles
  any_in_context : ∀ c : Context, c.principal = some p →
    (anyOf required).permits (some p) = c.hasAnyRole required
  all_in_context : ∀ c : Context, c.principal = some p →
    (allOf required).permits (some p) = c.hasAllRoles required
  nobody : (anyOf required).permits none = false ∧ (allOf required).permits none = false
  /-- Neither the order nor repetitions matter, in what is required or in what is held. -/
  same_members : ∀ required' p', (∀ r, r ∈ required ↔ r ∈ required') →
    (∀ r, r ∈ p.roles ↔ r ∈ p'.roles) →
    (anyOf required').permits (some p') = (anyOf required).permits (some p) ∧
      (allOf required').permits (some p') = (allOf required).permits (some p)
  more_held : ∀ p', (∀ r ∈ p.roles, r ∈ p'.roles) →
    ((anyOf required).permits (some p) = true → (anyOf required).permits (some p') = true) ∧
      ((allOf required).permits (some p) = true → (allOf required).permits (some p') = true)
  more_required : ∀ required', required ⊆ required' →
    ((anyOf required).permits (some p) = true → (anyOf required').permits (some p) = true) ∧
      ((allOf required').permits (some p) = true → (allOf required).permits (some p) = true)
  any_of_all : required ≠ [] → (allOf required).permits (some p) = true →
    (anyOf required).permits (some p) = true

/-- **A role gate decides by the members of two sets,** those that are required and those that the
principal holds, and monotonically in both. -/
theorem decides_by_members (required : List String) (p : Principal) :
    DecidesByMembers required p where
  any_iff := permits_anyOf
  all_iff := permits_allOf
  any_in_context := fun _ => permits_anyOf_eq
  all_in_context := fun _ => permits_allOf_eq
  nobody := ⟨rfl, rfl⟩
  same_members := by
    intro required' p' hrequired hheld
    constructor
    · rw [Bool.eq_iff_iff, permits_anyOf, permits_anyOf]
      simp only [hrequired, hheld]
    · rw [Bool.eq_iff_iff, permits_allOf, permits_allOf]
      simp only [hrequired, hheld]
  more_held := by
    intro p' hheld
    exact ⟨permits_anyOf_mono (List.Subset.refl required) hheld,
      permits_allOf_mono (List.Subset.refl required) hheld⟩
  more_required := by
    intro required' hrequired
    exact ⟨permits_anyOf_mono hrequired fun _ hr => hr, permits_allOf_mono hrequired fun _ hr => hr⟩
  any_of_all := by
    intro hne hall
    -- a role that is required is there to be held: with an empty list all are, and none is
    obtain ⟨r, rest, rfl⟩ := List.exists_cons_of_ne_nil hne
    have hr : r ∈ r :: rest := List.mem_cons_self
    exact permits_anyOf.2 ⟨r, hr, permits_allOf.1 hall r hr⟩

/-- An editor of a tenant. -/
def editor : Principal := ⟨"ada", "acme", "ada@acme", RoleSet.ofList ["editor", "viewer", "editor"]⟩

/-- The same person, who has become an administrator. -/
def promoted : Principal := { editor with roles := RoleSet.ofList ["viewer", "admin", "editor"] }

/-- An editor gets through as long as the editor's role is among those asked for, or all of them are
held. -/
theorem decides_by_members_editor :
    ((anyOf ["admin", "editor"]).permits (some editor) = true ∧
      (∀ r ∈ editor.roles, r ∈ promoted.roles) ∧
      (anyOf ["admin", "editor"]).permits (some promoted) = true) ∧
    ((anyOf ["admin", "editor"]).permits (some editor)
      = ((Context.empty.attach editor).1).hasAnyRole ["admin", "editor"]) ∧
    ((allOf ["editor", "viewer", "editor"]).permits (some editor) = true ∧
      (anyOf ["editor", "viewer", "editor"]).permits (some editor) = true) := by
  have hany : (anyOf ["admin", "editor"]).permits (some editor) = true := by decide
  have hheld : ∀ r ∈ editor.roles, r ∈ promoted.roles := by
    show ∀ r ∈ editor.roles.toList, r ∈ promoted.roles
    decide
  have hall : (allOf ["editor", "viewer", "editor"]).permits (some editor) = true := by decide
  have h := decides_by_members ["admin", "editor"] editor
  refine ⟨⟨hany, hheld, (h.more_held promoted hheld).1 hany⟩, h.any_in_context _ rfl, hall, ?_⟩
  exact (decides_by_members ["editor", "viewer", "editor"] editor).any_of_all nofun hall

/-- Without required roles a gate that takes one of them lets nobody through, and one that takes all
of them lets any principal through. -/
example (p : Principal) :
    (anyOf []).permits (some p) = false ∧ (allOf []).permits (some p) = true := ⟨rfl, rfl⟩

end TenantAuth.RoleGate

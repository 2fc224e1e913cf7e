import Mathlib.Data.List.Induction
import TenantAuth.Proofs.Gate.Tenancy

/-!
# A context is written once

Whatever calls are made on the context of a request, and in whatever order, the first principal
stays and at most one tenant is added. `WriteOnce` says what the calls so far have to do with what
is known and with the answer to the next call. The two slots lean on each other: a tenant is refused
where the principal brings one, and a principal that comes later overrides an added tenant. What
ties them together is that after a call that adds a tenant some tenant is known
(`isSome_tenantId_after`), whether that call was accepted or not.
-/
namespace TenantAuth.Context

variable {c : Context} {p : Principal} {t : String}

/-- A call that may write to a context. -/
inductive Call where
  | attach (p : Principal)
  | scopeTenant (tenant : String)

namespace Call

/-- What the call makes of a context, and its answer: `false` if it is refused. -/
def make (c : Context) : Call → Context × Bool
  | .attach p => c.attach p
  | .scopeTenant t => c.scopeTenant t

/-- The principal that the call brings. -/
def principal? : Call → Option Principal
  | .attach p => some p
  | .scopeTenant _ => none

end Call

variable {call : Call} {calls : List Call}

/-- The context after calls that are made one after the other, nothing being known before. -/
def after (calls : List Call) : Context := calls.foldl (fun c call => (call.make c).1) empty

/-- The answer to a call that is made after others. -/
def answer (before : List Call) (call : Call) : Bool := (call.make (after before)).2

/-- The principal that the calls bring first. -/
def firstPrincipal (calls : List Call) : Option Principal := calls.findSome? Call.principal?

/-- One of the calls added the tenant. -/
def Adds (calls : List Call) (t : String) : Prop :=
  ∃ before rest, calls = before ++ .scopeTenant t :: rest ∧ answer before (.scopeTenant t) = true

/-! ## One call -/

/-- A call that is refused leaves the context alone. -/
theorem make_of_refused (h : (call.make c).2 = false) : (call.make c).1 = c := by
  cases call with
  -- a principal is refused where there is one, and then it stays
  | attach p =>
    simp only [Call.make, attach] at h ⊢
    cases hp : c.principal with
    | some q => rfl
    | none =>
      rw [hp] at h
      cases h
  -- a tenant is refused where one is known
  | scopeTenant t =>
    simp only [Call.make, scopeTenant] at h ⊢
    cases ht : c.tenantId with
    | some u => rfl
    | none =>
      rw [ht] at h
      cases h

/-- A principal is accepted as long as there is none. -/
theorem accepts_attach : ((Call.attach p).make c).2 = true ↔ c.principal = none := by
  rw [Call.make, attach]
  cases c.principal with
  | some q => exact iff_of_false Bool.false_ne_true (Option.some_ne_none q)
  | none => exact iff_of_true rfl rfl

/-- A tenant is accepted as long as none is known, from whichever slot. -/
theorem accepts_scopeTenant : ((Call.scopeTenant t).make c).2 = true ↔ c.tenantId = none := by
  rw [Call.make, scopeTenant]
  cases c.tenantId with
  | some u => exact iff_of_false Bool.false_ne_true (Option.some_ne_none u)
  | none => exact iff_of_true rfl rfl

/-- A principal that is there stays, and otherwise the call's own takes its place. -/
theorem principal_make : (call.make c).1.principal = c.principal.or call.principal? := by
  cases call with
  | attach p => exact Layer.principal_attach c p
  | scopeTenant t => exact (Layer.principal_scopeTenant c t).trans Option.or_none.symm

/-- Only a tenant that is accepted is added. -/
theorem scopedTenant_make :
    (call.make c).1.scopedTenant = some t ↔
      c.scopedTenant = some t ∨ call = .scopeTenant t ∧ (call.make c).2 = true := by
  cases call with
  | attach p =>
    have hkeep : ((Call.attach p).make c).1.scopedTenant = c.scopedTenant := by
      rw [Call.make, attach]
      cases c.principal <;> rfl
    have hother : ¬ (Call.attach p = .scopeTenant t ∧ ((Call.attach p).make c).2 = true) := by
      rintro ⟨h, -⟩
      cases h
    rw [hkeep]
    exact (or_iff_left hother).symm
  | scopeTenant u =>
    rw [accepts_scopeTenant, Call.make, scopeTenant]
    cases ht : c.tenantId with
    | some v => exact (or_iff_left fun h => Option.some_ne_none v h.2).symm
    | none =>
      -- no tenant is known, so that none was added before
      have hnone : c.scopedTenant = none := (Option.or_eq_none_iff.1 ht).2
      rw [hnone]
      constructor
      · intro h
        cases h
        exact .inr ⟨rfl, rfl⟩
      · rintro (h | ⟨h, -⟩)
        · cases h
        · cases h
          rfl

/-- A tenant that is known may change but is never forgotten. -/
theorem isSome_tenantId_make (h : c.tenantId.isSome) : (call.make c).1.tenantId.isSome := by
  cases call with
  | attach p => exact isSome_tenantId_attach h p
  | scopeTenant t =>
    have hrefused : ((Call.scopeTenant t).make c).2 = false := by
      rw [← Bool.not_eq_true, accepts_scopeTenant]
      exact Option.isSome_iff_ne_none.1 h
    rwa [make_of_refused hrefused]

/-- A call that adds a tenant leaves one behind, even if it is refused. -/
theorem isSome_tenantId_scopeTenant : ((Call.scopeTenant t).make c).1.tenantId.isSome := by
  cases haccepted : ((Call.scopeTenant t).make c).2 with
  | true =>
    rw [tenantId, Option.isSome_or, scopedTenant_make.2 (.inr ⟨rfl, haccepted⟩)]
    exact Bool.or_true _
  | false =>
    rw [make_of_refused haccepted, Option.isSome_iff_ne_none, Ne, ← accepts_scopeTenant (t := t),
      haccepted]
    exact Bool.false_ne_true

theorem tenant?_eq_none : p.tenant? = none ↔ p.tenantId = "" := by
  rw [Principal.tenant?, ← String.isEmpty_iff]
  cases p.tenantId.isEmpty with
  | true => exact iff_of_true rfl rfl
  | false => exact iff_of_false (Option.some_ne_none _) Bool.false_ne_true

theorem tenant?_eq_some : p.tenant? = some t ↔ p.tenantId = t ∧ t ≠ "" := by
  constructor
  · intro h
    have hne : p.tenantId ≠ "" := fun hempty => by
      rw [tenant?_eq_none.2 hempty] at h
      cases h
    rw [Principal.tenant?, if_neg (by rwa [String.isEmpty_iff])] at h
    cases h
    exact ⟨rfl, hne⟩
  · rintro ⟨rfl, hne⟩
    exact if_neg (by rwa [String.isEmpty_iff])

/-- No tenant is known just when none was added and the principal, if any, brings none. -/
theorem tenantId_eq_none :
    c.tenantId = none ↔ c.scopedTenant = none ∧ ∀ p, c.principal = some p → p.tenantId = "" := by
  rw [tenantId, Option.or_eq_none_iff, Option.bind_eq_none_iff, and_comm]
  simp only [tenant?_eq_none]

/-- An added tenant counts only where the principal, if any, brings none. -/
theorem tenantId_eq_some_iff :
    c.tenantId = some t ↔ (∃ p, c.principal = some p ∧ p.tenantId = t ∧ t ≠ "") ∨
      (∀ p, c.principal = some p → p.tenantId = "") ∧ c.scopedTenant = some t := by
  rw [tenantId, Option.or_eq_some_iff, Option.bind_eq_some_iff, Option.bind_eq_none_iff]
  simp only [tenant?_eq_some, tenant?_eq_none]

/-! ## A run of calls -/

/-- One more call is made on what the calls before it have left. -/
theorem after_concat (calls : List Call) (call : Call) :
    after (calls ++ [call]) = (call.make (after calls)).1 := by
  rw [after, List.foldl_append]
  rfl

/-- The principal of a context is the first that was attached. -/
theorem principal_after (calls : List Call) : (after calls).principal = firstPrincipal calls := by
  induction calls using List.reverseRecOn with
  | nil => rfl
  | append_singleton calls call ih =>
    rw [after_concat, principal_make, ih, firstPrincipal, firstPrincipal, List.findSome?_append,
      List.findSome?_singleton]

theorem firstPrincipal_eq_none : firstPrincipal calls = none ↔ ∀ p, .attach p ∉ calls := by
  rw [firstPrincipal, List.findSome?_eq_none_iff]
  constructor
  · intro h p hmem
    cases h _ hmem
  · intro h call hmem
    cases call with
    | attach p => exact absurd hmem (h p)
    | scopeTenant t => rfl

/-- A call adds a tenant if it is asked to and accepted. -/
theorem adds_concat :
    Adds (calls ++ [call]) t ↔ Adds calls t ∨ call = .scopeTenant t ∧ answer calls call = true := by
  constructor
  · rintro ⟨before, rest, heq, haccepted⟩
    -- the call that adds it is the last one, or there are calls after it
    rcases List.eq_nil_or_concat rest with rfl | ⟨rest, last, rfl⟩
    · obtain ⟨rfl, hlast⟩ := List.append_inj' heq rfl
      cases hlast
      exact .inr ⟨rfl, haccepted⟩
    · rw [List.concat_eq_append, ← List.cons_append, ← List.append_assoc] at heq
      obtain ⟨rfl, -⟩ := List.append_inj' heq rfl
      exact .inl ⟨before, rest, rfl, haccepted⟩
  · rintro (⟨before, rest, rfl, haccepted⟩ | ⟨rfl, haccepted⟩)
    · exact ⟨before, rest ++ [call], by simp, haccepted⟩
    · exact ⟨calls, [], rfl, haccepted⟩

/-- The tenant on the side is one that was added. -/
theorem scopedTenant_after : (after calls).scopedTenant = some t ↔ Adds calls t := by
  induction calls using List.reverseRecOn with
  | nil =>
    constructor
    · intro h
      cases h
    · rintro ⟨before, rest, h, -⟩
      simp at h
  | append_singleton calls call ih =>
    rw [after_concat, scopedTenant_make, ih, adds_concat, answer]

/-- After a call that adds a tenant some tenant is known, the added one or that of the principal. -/
theorem isSome_tenantId_after (h : .scopeTenant t ∈ calls) : (after calls).tenantId.isSome := by
  induction calls using List.reverseRecOn with
  | nil => cases h
  | append_singleton calls call ih =>
    rw [after_concat]
    rcases List.mem_append.1 h with h | h
    · exact isSome_tenantId_make (ih h)
    · rw [← List.mem_singleton.1 h]
      exact isSome_tenantId_scopeTenant

/-- A principal is accepted just when no other was offered before. -/
theorem answer_attach : answer calls (.attach p) = true ↔ ∀ q, .attach q ∉ calls := by
  rw [answer, accepts_attach, principal_after, firstPrincipal_eq_none]

/-- A tenant is accepted just when no other was offered before and the principal, if there is one,
has none. -/
theorem answer_scopeTenant :
    answer calls (.scopeTenant t) = true ↔
      (∀ u, .scopeTenant u ∉ calls) ∧ ∀ p, firstPrincipal calls = some p → p.tenantId = "" := by
  rw [answer, accepts_scopeTenant]
  constructor
  · intro hnone
    -- an earlier tenant would be known by now, whichever slot it went into
    have hscoped : ∀ u, .scopeTenant u ∉ calls := by
      intro u hmem
      have hknown := isSome_tenantId_after hmem
      rw [hnone] at hknown
      cases hknown
    refine ⟨hscoped, ?_⟩
    rw [← principal_after]
    exact (tenantId_eq_none.1 hnone).2
  · rintro ⟨hscoped, hprincipal⟩
    rw [tenantId_eq_none, principal_after]
    refine ⟨Option.eq_none_iff_forall_ne_some.2 fun u hu => ?_, hprincipal⟩
    obtain ⟨before, rest, rfl, -⟩ := scopedTenant_after.1 hu
    exact hscoped u (by simp)

/-- The roles of the principal that the calls bring first, none without one. -/
def firstRoles (calls : List Call) : RoleSet := (firstPrincipal calls).elim .empty Principal.roles

/-- The roles are those of the first principal. -/
theorem roles_after (calls : List Call) : (after calls).roles = firstRoles calls := by
  rw [firstRoles, ← principal_after, roles]
  cases (after calls).principal <;> rfl

/-- The first principal stays the first. -/
theorem firstPrincipal_append {p : Principal} (h : firstPrincipal calls = some p)
    (more : List Call) : firstPrincipal (calls ++ more) = some p := by
  rw [firstPrincipal, List.findSome?_append, ← firstPrincipal, h, Option.some_or]

/-- Adding a tenant has no say in the roles. -/
theorem firstRoles_scoped (calls : List Call) (t : String) :
    firstRoles (calls ++ [.scopeTenant t]) = firstRoles calls := by
  have hskip : firstPrincipal (calls ++ [.scopeTenant t]) = firstPrincipal calls := by
    rw [firstPrincipal, List.findSome?_append, ← firstPrincipal]
    exact Option.or_none
  rw [firstRoles, hskip, firstRoles]

/-- What a run of calls makes known, and how the next call is answered. -/
structure WriteOnce (calls : List Call) : Prop where
  principal : (after calls).principal = firstPrincipal calls
  principal_stays : ∀ p more, (after calls).principal = some p →
    (after (calls ++ more)).principal = some p
  attach_accepted : ∀ p, answer calls (.attach p) = true ↔ ∀ q, .attach q ∉ calls
  scope_accepted : ∀ t, answer calls (.scopeTenant t) = true ↔
    (∀ u, .scopeTenant u ∉ calls) ∧ ∀ p, firstPrincipal calls = some p → p.tenantId = ""
  scope_refused_later : ∀ t more u,
    answer (calls ++ .scopeTenant t :: more) (.scopeTenant u) = false
  refused : ∀ call, answer calls call = false → after (calls ++ [call]) = after calls
  tenant : ∀ t, (after calls).tenantId = some t ↔
    (∃ p, firstPrincipal calls = some p ∧ p.tenantId = t ∧ t ≠ "") ∨
      (∀ p, firstPrincipal calls = some p → p.tenantId = "") ∧ Adds calls t
  roles : (after calls).roles = firstRoles calls
  hasAnyRole : ∀ required, (after calls).hasAnyRole required = (firstRoles calls).hasAny required
  hasAllRoles : ∀ required, (after calls).hasAllRoles required = (firstRoles calls).hasAll required
  roles_scoped : ∀ t, (after (calls ++ [.scopeTenant t])).roles = (after calls).roles

/-- **The principal and the tenant of a request are written once,** whatever calls are made. The
first principal stays and every other one is refused; a tenant is accepted at most once, from the
first call that names one, unless the principal has one by then; and what is refused changes
nothing. -/
theorem write_once (calls : List Call) : WriteOnce calls where
  principal := principal_after calls
  -- every field is read off the closed forms of the two slots
  principal_stays := by
    intro p more hp
    rw [principal_after] at hp ⊢
    exact firstPrincipal_append hp more
  attach_accepted := fun _ => answer_attach
  scope_accepted := fun _ => answer_scopeTenant
  scope_refused_later := by
    intro t more u
    rw [← Bool.not_eq_true, answer_scopeTenant]
    exact fun h => h.1 t (List.mem_append_right _ List.mem_cons_self)
  refused := by
    intro call h
    rw [after_concat]
    exact make_of_refused h
  tenant := by
    intro t
    rw [tenantId_eq_some_iff, principal_after, scopedTenant_after]
  roles := roles_after calls
  hasAnyRole := by
    intro required
    rw [Context.hasAnyRole, roles_after]
  hasAllRoles := by
    intro required
    rw [Context.hasAllRoles, roles_after]
  roles_scoped := by
    intro t
    rw [roles_after, roles_after, firstRoles_scoped]

/-- A tenant that was added gives way to that of a principal that comes later. -/
example : (after [.scopeTenant "acme"]).tenantId = some "acme" ∧
    (after [.scopeTenant "acme", .attach ⟨"ada", "corp", "", .empty⟩]).tenantId = some "corp" := by
  decide

end TenantAuth.Context

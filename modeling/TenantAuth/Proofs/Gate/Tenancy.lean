import TenantAuth.Proofs.Gate.Authentication

/-!
# Which tenant a request is served for

The tenant of a principal comes before every other one, and what a request says about its tenant
only counts where the principal has none. A tenant that is known once stays known.
-/
namespace TenantAuth

/-! ## The tenant in a context -/

namespace Context

/-- The tenant of the principal comes before any other. -/
theorem tenantId_of_principal {c : Context} {p : Principal} (hp : c.principal = some p)
    (hne : p.tenantId ≠ "") : c.tenantId = some p.tenantId := by
  have htenant : p.tenant? = some p.tenantId := if_neg (by rwa [String.isEmpty_iff])
  rw [tenantId, hp, Option.bind_some, htenant, Option.some_or]

/-- A tenant is that of the principal, or one that was added. -/
theorem tenantId_eq_some {c : Context} {t : String} (h : c.tenantId = some t) :
    (∃ p, c.principal = some p ∧ p.tenantId = t ∧ t ≠ "") ∨ c.scopedTenant = some t := by
  rw [tenantId, Option.or_eq_some_iff] at h
  -- the principal is asked first
  rcases h with h | ⟨-, h⟩
  · obtain ⟨p, hp, htenant⟩ := Option.bind_eq_some_iff.1 h
    rw [Principal.tenant?] at htenant
    split at htenant
    · cases htenant
    · next hne =>
      cases htenant
      rw [String.isEmpty_iff] at hne
      exact .inl ⟨p, hp, rfl, hne⟩
  · exact .inr h

/-- A tenant stays known when a principal is attached. -/
theorem isSome_tenantId_attach {c : Context} (h : c.tenantId.isSome) (p : Principal) :
    (c.attach p).1.tenantId.isSome := by
  rw [attach]
  cases hp : c.principal with
  | some q => exact h
  | none =>
    rw [tenantId, hp, Option.bind_none, Option.none_or] at h
    rw [tenantId, Option.isSome_or, h, Bool.or_true]

end Context

namespace Layer

variable {env : Env} {layer : Layer} {layers : List Layer} {r r' seen : Request}

/-- The tenant that a request names is its first field in words, without the blanks around it. -/
theorem tenantField_eq_some {h : Headers} {t : String} :
    tenantField h = some t ↔ t ≠ "" ∧ ∃ value text, h.first? "x-tenant-id" = some value ∧
      Headers.visibleText? value = some text ∧ Text.trim text = t := by
  simp only [tenantField, Option.bind_eq_bind, Option.bind_eq_some_iff]
  constructor
  -- a name that is blank counts as none
  · rintro ⟨value, hvalue, text, htext, h⟩
    split at h
    · cases h
    · next hne =>
      cases h
      rw [String.isEmpty_iff] at hne
      exact ⟨hne, value, text, hvalue, htext, rfl⟩
  · rintro ⟨hne, value, text, hvalue, htext, rfl⟩
    refine ⟨value, hvalue, text, htext, ?_⟩
    rw [if_neg (by rwa [String.isEmpty_iff])]

/-- An added tenant is the one that the request names. -/
def Scoped (r : Request) : Prop :=
  ∀ t, r.context.scopedTenant = some t → tenantField r.headers = some t

/-- A layer adds no tenant but the one that the request names. -/
theorem Passes.scoped (h : Passes env layer r r') (hr : Scoped r) : Scoped r' := by
  cases h with
  | @authenticated layer r p hauth hp =>
    intro t ht
    have hkeep : (r.context.attach p).1.scopedTenant = r.context.scopedTenant := by
      rw [Context.attach]
      cases r.context.principal with
      | none => rfl
      | some q => rfl
    exact hr t (hkeep ▸ ht)
  | anonymous he => exact hr
  | tenantKnown ht => exact hr
  -- this is the one way to add a tenant, and it takes the name from the field
  | tenantNamed hnone ht =>
    intro t' ht'
    rw [Context.scopeTenant, hnone] at ht'
    cases ht'
    exact ht
  | correlated id => exact hr
  | permitted hgate => exact hr

/-- Neither do all layers together. -/
theorem PassesAll.scoped (h : PassesAll env layers r seen) (hr : Scoped r) : Scoped seen := by
  induction h with
  | nil r => exact hr
  | cons hstep hinner ih => exact ih (hstep.scoped hr)

/-- A known tenant may change but is never forgotten. -/
theorem Passes.isSome_tenantId (h : Passes env layer r r') (hr : r.context.tenantId.isSome) :
    r'.context.tenantId.isSome := by
  cases h with
  | authenticated hauth hp => exact Context.isSome_tenantId_attach hr _
  | anonymous he => exact hr
  | tenantKnown ht => exact hr
  | tenantNamed hnone ht =>
    rw [hnone] at hr
    cases hr
  | correlated id => exact hr
  | permitted hgate => exact hr

/-- Whoever passes the tenant gate has a tenant. -/
theorem Passes.isSome_of_requireTenant (h : Passes env .requireTenant r r') :
    r'.context.tenantId.isSome := by
  cases h with
  | authenticated hauth hp => cases hauth
  | tenantKnown ht =>
    rw [ht]
    rfl
  | tenantNamed hnone ht =>
    rw [Context.scopeTenant, hnone]
    rw [Context.tenantId, Option.isSome_or]
    exact Bool.or_true _

/-- Behind a tenant gate, wherever it stands, there is a tenant. -/
theorem PassesAll.isSome_tenantId (h : PassesAll env layers r seen)
    (hr : .requireTenant ∈ layers ∨ r.context.tenantId.isSome) :
    seen.context.tenantId.isSome := by
  induction h with
  | nil r =>
    rcases hr with hmem | hr
    · cases hmem
    · exact hr
  | cons hstep hinner ih =>
    refine ih ?_
    rcases hr with hmem | hr
    -- once there is a tenant the layers further in keep it
    · rcases List.mem_cons.1 hmem with rfl | hmem
      · exact .inr hstep.isSome_of_requireTenant
      · exact .inl hmem
    · exact .inr (hstep.isSome_tenantId hr)

end Layer

end TenantAuth

import TenantAuth.Proofs.Gate.LookAlike
import TenantAuth.Proofs.Gate.Tenancy
import TenantAuth.Proofs.Http.Headers
import TenantAuth.Proofs.Service.Handler

/-!
# Isolation of tenants

Behind a layer that authenticates, a request with a principal of some tenant is served as if its
`X-Tenant-ID` fields were not there: two requests that differ in these fields alone stay alike from
layer to layer, and get the same answer.
-/
namespace TenantAuth.Layer

variable {env : Env} {layer : Layer} {layers : List Layer} {r r₁ r₂ : Request} {w : World}

/-! ## Requests that name different tenants -/

/-- The fields of a request other than those that name a tenant. -/
def otherFields (h : Headers) : Headers := h.filter (·.1 ≠ "x-tenant-id")

/-- The requests agree on everything but the tenant that their fields name. -/
structure SameButTenant (r₁ r₂ : Request) : Prop where
  method : r₁.method = r₂.method
  target : r₁.target = r₂.target
  headers : otherFields r₁.headers = otherFields r₂.headers
  body : r₁.body = r₂.body
  context : r₁.context = r₂.context

/-- A handler that asks for identity and tenant through the context alone cannot tell the requests
apart. -/
structure SameView (r₁ r₂ : Request) : Prop where
  method : r₁.method = r₂.method
  target : r₁.target = r₂.target
  headers : otherFields r₁.headers = otherFields r₂.headers
  body : r₁.body = r₂.body
  principal : r₁.context.principal = r₂.context.principal
  tenantId : r₁.context.tenantId = r₂.context.tenantId
  correlationId : r₁.context.correlationId = r₂.context.correlationId

/-- Requests that differ in the tenant that they name, and in nothing else, are the same to a
handler. -/
theorem SameButTenant.sameView {r₁ r₂ : Request} (h : SameButTenant r₁ r₂) : SameView r₁ r₂ where
  method := h.method
  target := h.target
  headers := h.headers
  body := h.body
  principal := by rw [h.context]
  tenantId := by rw [h.context]
  correlationId := by rw [h.context]

/-- The service reads identity and tenant through the context alone. -/
def ReadsContext (service : Service) : Prop :=
  ∀ r₁ r₂ w, SameView r₁ r₂ → service r₁ w = service r₂ w

/-- Some layer authenticates before any layer demands a tenant. -/
def AuthFirst (layers : List Layer) : Prop :=
  ∀ outer inner, layers = outer ++ .requireTenant :: inner → ∃ layer ∈ outer, layer.isAuth

/-- Behind a gate that does not authenticate, the gate that does still comes before the tenant
gate. -/
theorem AuthFirst.tail (h : AuthFirst (layer :: layers)) (hauth : layer.isAuth = false) :
    AuthFirst layers := by
  rintro outer inner rfl
  obtain ⟨l, hl, hlauth⟩ := h (layer :: outer) inner rfl
  rcases List.mem_cons.1 hl with rfl | hl
  · rw [hauth] at hlauth
    cases hlauth
  · exact ⟨l, hl, hlauth⟩

theorem authFirst_cons (hauth : layer.isAuth = true) : AuthFirst (layer :: layers) := by
  intro outer inner h
  cases outer with
  | nil =>
    injection h with hhead
    rw [hhead] at hauth
    cases hauth
  | cons first rest =>
    injection h with hhead
    exact ⟨first, List.mem_cons_self, hhead ▸ hauth⟩

/-- The tenant field has no say in who is authenticated. -/
theorem authenticate_congr {h₁ h₂ : Headers} (h : otherFields h₁ = otherFields h₂)
    (m : TokenManager) (now : Instant) :
    Bearer.authenticate m now h₁ = Bearer.authenticate m now h₂ := by
  rw [Bearer.authenticate, Bearer.authenticate, Bearer.token, Bearer.token,
    Headers.first?_congr h (by decide)]

/-! ## Runs on two requests -/

/-- Only a layer that demands a tenant, of a request for which none is known, looks at the fields
that name one. -/
theorem SameButTenant.entersAlike (h : SameButTenant r₁ r₂)
    (hknown : layer = .requireTenant → ∃ t, r₁.context.tenantId = some t) :
    EntersAlike env layer r₁ r₂ w := by
  have hverdict : verdict env r₁ = verdict env r₂ := by
    rw [verdict, verdict, authenticate_congr h.headers]
  have hinbound : Correlation.inbound r₁.headers = Correlation.inbound r₂.headers := by
    rw [Correlation.inbound, Correlation.inbound, Headers.first?_congr h.headers (by decide)]
  exact entersAlike_of_verdict hverdict hinbound h.context fun hlayer => .inl (hknown hlayer)

/-- Two requests that differ in the tenant they name are answered alike, once a principal with a
tenant is attached or as long as no layer asks for a tenant before it is. -/
theorem SameButTenant.wrapAll_eq {service : Service} (hservice : ReadsContext service)
    {p : Principal} (hne : p.tenantId ≠ "") (h : SameButTenant r₁ r₂)
    (hp : Bearer.authenticate env.tokens env.now r₁.headers = .ok p)
    (hstand : r₁.context.principal = some p ∨ (r₁.context.principal = none ∧ AuthFirst layers)) :
    wrapAll env layers service r₁ w = wrapAll env layers service r₂ w := by
  induction layers generalizing r₁ r₂ w with
  | nil => exact hservice r₁ r₂ w h.sameView
  | cons layer inner ih =>
    have hbearer : bearer env r₁ = some p := by
      rw [bearer, hp]
      rfl
    -- a tenant is known wherever one is demanded: the principal that is attached by then has one
    have hknown : layer = .requireTenant → ∃ t, r₁.context.tenantId = some t := by
      rintro rfl
      rcases hstand with hprincipal | ⟨-, hfirst⟩
      · exact ⟨_, Context.tenantId_of_principal hprincipal hne⟩
      · obtain ⟨l, hl, -⟩ := hfirst [] inner rfl
        cases hl
    show wrap env layer (wrapAll env inner service) r₁ w
      = wrap env layer (wrapAll env inner service) r₂ w
    rcases h.entersAlike (w := w) hknown with ⟨rejection, w', h₁, h₂⟩ | ⟨c, w', h₁, h₂⟩
    · rw [wrap_of_error h₁, wrap_of_error h₂]
    · have hnext : SameButTenant { r₁ with context := c } { r₂ with context := c } :=
        { h with context := rfl }
      have hprincipal := (passes_of_enter h₁).principal
      -- once the principal is attached it stays; until then an auth layer is still to come
      have hstand' : c.principal = some p ∨ (c.principal = none ∧ AuthFirst inner) := by
        rcases hstand with hattached | ⟨hnone, hfirst⟩
        · rw [hattached] at hprincipal
          exact .inl hprincipal
        · rw [hnone, Option.none_or, hbearer] at hprincipal
          cases hauth : layer.isAuth with
          | true =>
            rw [if_pos hauth] at hprincipal
            exact .inl hprincipal
          | false =>
            rw [if_neg (by rw [hauth]; exact Bool.false_ne_true)] at hprincipal
            exact .inr ⟨hprincipal, hfirst.tail hauth⟩
      rw [wrap_of_ok h₁, wrap_of_ok h₂, ih hnext hp hstand']
      rfl

end TenantAuth.Layer

namespace TenantAuth.Handler

open Layer

/-- The handlers of an application read identity and tenant through the context alone. -/
theorem readsContext_run (env : Env) (h : Handler) : ReadsContext (h.run env) := by
  intro r₁ r₂ w hview
  exact h.run_congr hview.principal hview.tenantId hview.correlationId
    (Headers.first?_congr hview.headers (by decide)) hview.body

end TenantAuth.Handler

namespace TenantAuth.Layer

/-! ## Tenants behind a stack of layers -/

/-- **A handler sees the tenant of the principal, or else the one that the request names.** Behind
`requireTenant` it always sees one. And where a layer authenticates first, no request for a
principal of some tenant can change its answer by naming a tenant. -/
theorem tenant_behind_stack (env : Env) (layers : List Layer) (r : Request) (w : World)
    (hr : r.context = .empty) :
    (∀ seen w' p, Reaches env layers r w seen w' → seen.context.principal = some p →
      p.tenantId ≠ "" →
      seen.context.tenantId = some p.tenantId ∧ seen.context.tenantScope = .ok p.tenantId) ∧
    (.requireTenant ∈ layers → ∀ seen w', Reaches env layers r w seen w' →
      ∃ t, seen.context.tenantId = some t ∧ seen.context.tenantScope = .ok t ∧ t ≠ "" ∧
        ((∃ p, seen.context.principal = some p ∧ p.tenantId = t) ∨
          ∃ value text, r.headers.first? "x-tenant-id" = some value ∧
            Headers.visibleText? value = some text ∧ Text.trim text = t)) ∧
    (AuthFirst layers → ∀ service, ReadsContext service → ∀ r', SameButTenant r r' →
      ∀ tok p, Bearer.Carries r.headers tok → env.tokens.verify env.now tok = .ok p →
        p.tenantId ≠ "" → wrapAll env layers service r w = wrapAll env layers service r' w) := by
  have hscope : ∀ {c : Context} {t : String}, c.tenantId = some t → c.tenantScope = .ok t := by
    intro c t ht
    rw [Context.tenantScope, ht]
  refine ⟨fun seen w' p hreach hp hne => ?_, fun hmem seen w' hreach => ?_, ?_⟩
  · have htenant := Context.tenantId_of_principal hp hne
    exact ⟨htenant, hscope htenant⟩
  · have hpasses := hreach.passesAll
    obtain ⟨t, ht⟩ := Option.isSome_iff_exists.1 (hpasses.isSome_tenantId (.inl hmem))
    have hscoped : Scoped seen := hpasses.scoped fun t' ht' => by
      rw [hr] at ht'
      cases ht'
    -- the tenant is that of the principal, or the gate has taken it from the field
    rcases Context.tenantId_eq_some ht with ⟨p, hp, htenant, hne⟩ | hadded
    · exact ⟨t, ht, hscope ht, hne, .inl ⟨p, hp, htenant⟩⟩
    · have hfield := hscoped t hadded
      rw [hpasses.headers] at hfield
      -- no layer touches the fields
      obtain ⟨hne, hnamed⟩ := tenantField_eq_some.1 hfield
      exact ⟨t, ht, hscope ht, hne, .inr hnamed⟩
  · intro hfirst service hservice r' hsame tok p hcarries hverify hne
    have hnone : r.context.principal = none := by
      rw [hr]
      rfl
    exact hsame.wrapAll_eq hservice hne
      (Bearer.authenticate_eq_ok.2 ⟨tok, hcarries, hverify⟩) (.inr ⟨hnone, hfirst⟩)

theorem adaRequest_sameButTenant (t t' : Bytes) : SameButTenant (adaRequest t) (adaRequest t') where
  method := rfl
  target := rfl
  headers := rfl
  body := rfl
  context := rfl

/-- The handler answers Ada alike, whichever tenant her request names. -/
theorem tenant_behind_stack_atEpoch :
    wrapAll atEpoch [.optionalAuth, .requireTenant] (Handler.counted.run atEpoch)
        (adaRequest [0x78]) ⟨0, 0⟩
      = wrapAll atEpoch [.optionalAuth, .requireTenant] (Handler.counted.run atEpoch)
        (adaRequest [0x79]) ⟨0, 0⟩ :=
  (tenant_behind_stack atEpoch _ (adaRequest [0x78]) ⟨0, 0⟩ rfl).2.2 (authFirst_cons rfl) _
    (Handler.readsContext_run atEpoch .counted) _ (adaRequest_sameButTenant _ _) _ _
    (adaRequest_carries [0x78]) atEpoch_verify (by decide)

end TenantAuth.Layer

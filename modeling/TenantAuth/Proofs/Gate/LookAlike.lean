import TenantAuth.Proofs.Gate.Stack
import TenantAuth.Proofs.Http.Headers
import TenantAuth.Proofs.Outcome

/-!
# Requests that layers cannot tell apart

A layer learns four things about a request: the verdict on its token as far as the caller is told of
it, the tenant that it names, the correlation id that it brings, and its context. Requests that
agree on these stay alike from layer to layer (`LookAlike.entersAlike`), and are answered alike if
the service behind the layers cannot tell them apart either (`LookAlike.wrapAll_eq`).
-/
namespace TenantAuth.Layer

open Outcome

variable {env : Env} {layer : Layer} {layers : List Layer} {r₁ r₂ : Request} {w : World}

/-- The layer treats the requests alike: it rejects both in the same way, or lets both through. -/
def EntersAlike (env : Env) (layer : Layer) (r₁ r₂ : Request) (w : World) : Prop :=
  (∃ rejection w', layer.enter env r₁ w = (.error rejection, w') ∧
    layer.enter env r₂ w = (.error rejection, w')) ∨
  ∃ c w', layer.enter env r₁ w = (.ok { r₁ with context := c }, w') ∧
    layer.enter env r₂ w = (.ok { r₂ with context := c }, w')

/-- The verdict on the token of a request, as far as the caller is told of it. -/
def verdict (env : Env) (r : Request) : Except AppError Principal :=
  (Bearer.authenticate env.tokens env.now r.headers).mapError AppError.ofAuthError

/-- A verdict is a principal, or a reason that may differ where the caller is not told of it. -/
theorem verdict_cases (h : verdict env r₁ = verdict env r₂) :
    (∃ p, Bearer.authenticate env.tokens env.now r₁.headers = .ok p ∧
      Bearer.authenticate env.tokens env.now r₂.headers = .ok p) ∨
    ∃ e₁ e₂, Bearer.authenticate env.tokens env.now r₁.headers = .error e₁ ∧
      Bearer.authenticate env.tokens env.now r₂.headers = .error e₂ ∧
      AppError.ofAuthError e₁ = AppError.ofAuthError e₂ := by
  rw [verdict, verdict] at h
  -- one verdict: the same principal, or errors that are told in the same words
  cases h₁ : Bearer.authenticate env.tokens env.now r₁.headers with
  | ok p =>
    rw [h₁] at h
    exact .inl ⟨p, rfl, mapError_eq_ok.1 h.symm⟩
  | error e₁ =>
    cases h₂ : Bearer.authenticate env.tokens env.now r₂.headers with
    | ok p =>
      rw [h₁, h₂] at h
      cases h
    | error e₂ =>
      rw [h₁, h₂] at h
      injection h with hsame
      exact .inr ⟨e₁, e₂, rfl, rfl, hsame⟩

/-- The id depends on the one that the request brings and on nothing else in it. -/
theorem chooseId_congr {h₁ h₂ : Headers} (h : Correlation.inbound h₁ = Correlation.inbound h₂) :
    chooseId env h₁ = chooseId env h₂ := by
  rw [chooseId, chooseId, h]

/-- Requests that agree on verdict, correlation id and context are treated alike, if they name the
same tenant or no layer has to ask for it. -/
theorem entersAlike_of_verdict (hverdict : verdict env r₁ = verdict env r₂)
    (hinbound : Correlation.inbound r₁.headers = Correlation.inbound r₂.headers)
    (hcontext : r₁.context = r₂.context)
    (htenant : layer = .requireTenant →
      (∃ t, r₁.context.tenantId = some t) ∨ tenantField r₁.headers = tenantField r₂.headers) :
    EntersAlike env layer r₁ r₂ w := by
  -- each layer looks at one of the things that the requests have in common
  cases layer with
  | requireAuth =>
    rcases verdict_cases hverdict with ⟨p, h₁, h₂⟩ | ⟨e₁, e₂, h₁, h₂, hsame⟩
    · refine .inr ⟨(r₁.context.attach p).1, w, ?_, ?_⟩
      · rw [enter, h₁]
        rfl
      · rw [enter, h₂, hcontext]
        rfl
    · refine .inl ⟨r₁.context.reject e₁, w, ?_, ?_⟩
      · rw [enter, h₁]
        rfl
      · rw [enter, h₂, hcontext, Context.reject, hsame]
        rfl
  | optionalAuth =>
    rcases verdict_cases hverdict with ⟨p, h₁, h₂⟩ | ⟨e₁, e₂, h₁, h₂, -⟩
    · refine .inr ⟨(r₁.context.attach p).1, w, ?_, ?_⟩
      · rw [enter, h₁]
        rfl
      · rw [enter, h₂, hcontext]
        rfl
    · refine .inr ⟨r₁.context, w, ?_, ?_⟩
      · rw [enter, h₁]
        rfl
      · rw [enter, h₂, hcontext]
        rfl
  | requireTenant =>
    cases hknown : r₁.context.tenantId with
    | some t =>
      refine .inr ⟨r₁.context, w, ?_, ?_⟩
      · rw [enter, hknown]
        rfl
      · rw [enter, ← hcontext, hknown, hcontext]
        rfl
    | none =>
      have hnamed : tenantField r₁.headers = tenantField r₂.headers := by
        refine (htenant rfl).resolve_left ?_
        rintro ⟨t, ht⟩
        rw [hknown] at ht
        cases ht
      cases ht : tenantField r₁.headers with
      | some t =>
        refine .inr ⟨(r₁.context.scopeTenant t).1, w, ?_, ?_⟩
        · rw [enter, hknown, ht]
          rfl
        · rw [enter, ← hcontext, hknown, ← hnamed, ht]
          rfl
      | none =>
        refine .inl ⟨r₁.context.reject .missingTenant, w, ?_, ?_⟩
        · rw [enter, hknown, ht]
          rfl
        · rw [enter, ← hcontext, hknown, ← hnamed, ht]
          rfl
  -- a fresh id is drawn for both or for neither
  | correlationId =>
    rcases hchosen : chooseId env r₁.headers w with ⟨id, w₁⟩
    refine .inr ⟨r₁.context.withCorrelationId id, w₁, enter_correlationId hchosen, ?_⟩
    rw [chooseId_congr hinbound] at hchosen
    rw [hcontext]
    exact enter_correlationId hchosen
  | requireRoles gate =>
    cases hgate : gate.permits r₁.context.principal with
    | true =>
      refine .inr ⟨r₁.context, w, ?_, ?_⟩
      · rw [enter, hgate]
        rfl
      · rw [enter, ← hcontext, hgate, hcontext]
        rfl
    | false =>
      refine .inl ⟨r₁.context.reject .permissionDenied, w, ?_, ?_⟩
      · rw [enter, hgate]
        rfl
      · rw [enter, ← hcontext, hgate]
        rfl

/-- Layers cannot tell the requests apart. -/
structure LookAlike (env : Env) (r₁ r₂ : Request) : Prop where
  verdict : verdict env r₁ = verdict env r₂
  tenant : tenantField r₁.headers = tenantField r₂.headers
  inbound : Correlation.inbound r₁.headers = Correlation.inbound r₂.headers
  context : r₁.context = r₂.context

/-- Layers cannot tell requests apart by fields of a name that none of them looks at. -/
theorem lookAlike_of_without {name : String}
    (hverdict : Layer.verdict env r₁ = Layer.verdict env r₂)
    (hfields : r₁.headers.without name = r₂.headers.without name) (htenant : "x-tenant-id" ≠ name)
    (hid : Correlation.fieldName ≠ name) (hcontext : r₁.context = r₂.context) :
    LookAlike env r₁ r₂ where
  verdict := hverdict
  tenant := by rw [tenantField, tenantField, Headers.first?_congr hfields htenant]
  inbound := by rw [Correlation.inbound, Correlation.inbound, Headers.first?_congr hfields hid]
  context := hcontext

/-- Requests that cannot be told apart are treated alike by every layer. -/
theorem LookAlike.entersAlike (h : LookAlike env r₁ r₂) : EntersAlike env layer r₁ r₂ w :=
  entersAlike_of_verdict h.verdict h.inbound h.context fun _ => .inr h.tenant

/-- They look alike under any other context, the same for both. -/
theorem LookAlike.withContext (h : LookAlike env r₁ r₂) (c : Context) :
    LookAlike env { r₁ with context := c } { r₂ with context := c } where
  verdict := h.verdict
  tenant := h.tenant
  inbound := h.inbound
  context := rfl

/-- **Requests that neither the layers nor the service tell apart are answered alike.** -/
theorem LookAlike.wrapAll_eq {service : Service} (h : LookAlike env r₁ r₂)
    (hservice : ∀ c w, service { r₁ with context := c } w = service { r₂ with context := c } w) :
    wrapAll env layers service r₁ w = wrapAll env layers service r₂ w := by
  induction layers generalizing r₁ r₂ w with
  | nil =>
    have hsame : { r₂ with context := r₁.context } = r₂ := by rw [h.context]
    show service r₁ w = service r₂ w
    rw [← hsame]
    exact hservice r₁.context w
  | cons layer inner ih =>
    show wrap env layer (wrapAll env inner service) r₁ w
      = wrap env layer (wrapAll env inner service) r₂ w
    -- both are rejected here, or go on with one context and look alike again
    rcases h.entersAlike (w := w) with ⟨rejection, w', h₁, h₂⟩ | ⟨c, w', h₁, h₂⟩
    · rw [wrap_of_error h₁, wrap_of_error h₂]
    · rw [wrap_of_ok h₁, wrap_of_ok h₂, ih (h.withContext c) hservice]
      rfl

end TenantAuth.Layer

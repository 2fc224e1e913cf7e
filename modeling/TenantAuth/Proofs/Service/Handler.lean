import TenantAuth.Service.Handler

/-!
# What handlers read of a request

A handler asks its context for identity, tenant and correlation id, and but for the token exchange
reads nothing else: requests with the same identity, the same tenant, the same id and the same JSON
body get the same answer.
-/
namespace TenantAuth.Handler

variable {env : Env} {r₁ r₂ : Request} {w : World}

/-- A handler looks at the context of a request, its content type and its body, and at nothing
else. -/
theorem run_congr (h : Handler) (hprincipal : r₁.context.principal = r₂.context.principal)
    (htenant : r₁.context.tenantId = r₂.context.tenantId)
    (hid : r₁.context.correlationId = r₂.context.correlationId)
    (hcontent : r₁.headers.first? "content-type" = r₂.headers.first? "content-type")
    (hbody : r₁.body = r₂.body) : h.run env r₁ w = h.run env r₂ w := by
  have hreject : ∀ e, r₁.context.reject e = r₂.context.reject e := fun e => by
    rw [Context.reject, Context.reject, hid]
  have hcurrent : r₁.context.currentPrincipal = r₂.context.currentPrincipal := by
    rw [Context.currentPrincipal, Context.currentPrincipal, hprincipal, hreject]
  have hscope : r₁.context.tenantScope = r₂.context.tenantScope := by
    rw [Context.tenantScope, Context.tenantScope, htenant, hreject]
  -- a handler looks at no more of a request than what is assumed to be the same
  cases h with
  | ok => rfl
  | whoami =>
    simp only [run, hcurrent, hscope]
  | current =>
    simp only [run, hcurrent]
  | tenant =>
    simp only [run, hscope]
  | maybe =>
    simp only [run, hprincipal]
  | correlated =>
    simp only [run, hid]
  | counted =>
    simp only [run, hprincipal, htenant, Context.roles]
  | refresh =>
    have htoken : Refresh.presentedToken r₁ = Refresh.presentedToken r₂ := by
      rw [Refresh.presentedToken, Refresh.presentedToken, Refresh.declaresJson,
        Refresh.declaresJson, hcontent, hbody]
    have hexchange : Refresh.exchange env r₁ = Refresh.exchange env r₂ := by
      rw [Refresh.exchange, Refresh.exchange, htoken, hid, funext hreject]
    simp only [run, Refresh.handle, hexchange]

end TenantAuth.Handler

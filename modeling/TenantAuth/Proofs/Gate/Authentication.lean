import TenantAuth.Proofs.Gate.Bearer
import TenantAuth.Proofs.Gate.Stack
import TenantAuth.Proofs.Token.LifeCycle

/-!
# Whom a request is served for

The principal that a handler sees behind a stack of layers is the one whose access token the request
carries, provided that some layer of the stack looked for it. Each layer keeps the principal it
finds, so that the order of the layers and their number do not matter.
-/
namespace TenantAuth.Layer

variable {env : Env} {layer : Layer} {layers : List Layer} {r r' seen : Request}

/-- The principal whose access token the request carries, if there is one. -/
def bearer (env : Env) (r : Request) : Option Principal :=
  (Bearer.authenticate env.tokens env.now r.headers).toOption

/-- A request has the identity of the token that it carries, if the token is verified. -/
theorem bearer_eq_some {p : Principal} :
    bearer env r = some p ↔
      ∃ tok, Bearer.Carries r.headers tok ∧ env.tokens.verify env.now tok = .ok p := by
  rw [← Bearer.authenticate_eq_ok, bearer]
  cases Bearer.authenticate env.tokens env.now r.headers with
  | error e => exact ⟨nofun, nofun⟩
  | ok q => exact ⟨fun h => by cases h; rfl, fun h => by cases h; rfl⟩

/-- Attaching keeps the principal that is there. -/
theorem principal_attach (c : Context) (p : Principal) :
    (c.attach p).1.principal = c.principal.or (some p) := by
  rw [Context.attach]
  cases h : c.principal with
  | none => rfl
  | some q => exact h

theorem principal_scopeTenant (c : Context) (t : String) :
    (c.scopeTenant t).1.principal = c.principal := by
  rw [Context.scopeTenant]
  cases c.tenantId with
  | none => rfl
  | some t' => rfl

/-- A layer keeps the principal it finds, and attaches another one only if it looks for a token. -/
theorem Passes.principal (h : Passes env layer r r') :
    r'.context.principal
      = r.context.principal.or (if layer.isAuth then bearer env r else none) := by
  -- no layer but the two that authenticate touches the principal
  cases h with
  | authenticated hauth hp =>
    rw [if_pos hauth, bearer, hp]
    exact principal_attach _ _
  | anonymous he =>
    rw [bearer, he]
    exact Option.or_none.symm
  | tenantKnown ht => exact Option.or_none.symm
  | tenantNamed hnone ht =>
    rw [principal_scopeTenant]
    exact Option.or_none.symm
  | correlated id => exact Option.or_none.symm
  | permitted hgate => exact Option.or_none.symm

/-- Whose token a request carries does not change on the way in. -/
theorem Passes.bearer_eq (h : Passes env layer r r') : bearer env r' = bearer env r := by
  rw [h.frame]
  rfl

/-- A stack attaches the principal of the bearer token just when one of its layers looks for it. -/
theorem PassesAll.principal (h : PassesAll env layers r seen) :
    seen.context.principal
      = r.context.principal.or (if layers.any isAuth then bearer env r else none) := by
  induction h with
  | nil r => exact Option.or_none.symm
  | @cons layer layers r r' seen hstep hinner ih =>
    rw [ih, hstep.principal, hstep.bearer_eq, List.any_cons]
    -- a principal that is there stays; without one, this layer or one behind it may attach it
    cases r.context.principal with
    | some p => rfl
    | none =>
      cases layer.isAuth with
      | false => rfl
      | true =>
        rw [if_pos rfl, Bool.true_or, if_pos rfl, Option.none_or]
        cases bearer env r with
        | some p => rfl
        | none =>
          rw [ite_self]
          rfl

/-- Behind a layer that demands it there is always a principal. -/
theorem PassesAll.bearer_of_requireAuth (h : PassesAll env layers r seen)
    (hmem : .requireAuth ∈ layers) : ∃ p, bearer env r = some p := by
  induction h with
  | nil r => cases hmem
  | cons hstep hinner ih =>
    rcases List.mem_cons.1 hmem with rfl | hmem
    · cases hstep with
      | authenticated hauth hp =>
        rw [bearer, hp]
        exact ⟨_, rfl⟩
    -- the layer stands further in, where the request still carries the same token
    · rw [← hstep.bearer_eq]
      exact ih hmem

/-- A role gate lets nobody through anonymously. -/
theorem PassesAll.principal_of_requireRoles {gate : RoleGate}
    (h : PassesAll env (.requireRoles gate :: layers) r seen) :
    ∃ p, r.context.principal = some p := by
  cases h with
  | cons hstep hinner =>
    cases hstep with
    | authenticated hauth hp => cases hauth
    | permitted hgate =>
      -- an anonymous request is permitted by no gate
      cases hp : r.context.principal with
      | none =>
        rw [hp] at hgate
        cases hgate
      | some p => exact ⟨p, rfl⟩

/-- **A handler sees a principal just when the request carries that principal's access token and a
layer has looked for it.** So behind `requireAuth` only requests with a valid token are served, and
for the principal of that token; and a role gate outside every layer that authenticates lets
nothing through. -/
theorem principal_behind_stack (env : Env) (layers : List Layer) (r : Request) (w : World)
    (hr : r.context = .empty) :
    (∀ p, (∃ seen w', Reaches env layers r w seen w' ∧ seen.context.principal = some p) ↔
      (∃ seen w', Reaches env layers r w seen w') ∧ (∃ layer ∈ layers, layer.isAuth) ∧
        ∃ tok, Bearer.Carries r.headers tok ∧ env.tokens.verify env.now tok = .ok p) ∧
    (.requireAuth ∈ layers → ∀ seen w', Reaches env layers r w seen w' →
      ∃ tok p, Bearer.Carries r.headers tok ∧ env.tokens.verify env.now tok = .ok p ∧
        seen.context.currentPrincipal = .ok p) ∧
    (∀ outer gate inner, layers = outer ++ .requireRoles gate :: inner →
      (∀ layer ∈ outer, layer.isAuth = false) → ¬ ∃ seen w', Reaches env layers r w seen w') := by
  have hnone : r.context.principal = none := by
    rw [hr]
    rfl
  -- what a service is run on has the principal of the bearer token, if a layer looked for it
  have hsees : ∀ {seen w'}, Reaches env layers r w seen w' →
      seen.context.principal = if layers.any isAuth then bearer env r else none := by
    intro seen w' hreach
    rw [hreach.passesAll.principal, hnone, Option.none_or]
  refine ⟨fun p => ?_, fun hmem seen w' hreach => ?_, ?_⟩
  · constructor
    · rintro ⟨seen, w', hreach, hp⟩
      rw [hsees hreach] at hp
      split at hp
      · next hany => exact ⟨⟨seen, w', hreach⟩, List.any_eq_true.1 hany, bearer_eq_some.1 hp⟩
      · cases hp
    · rintro ⟨⟨seen, w', hreach⟩, hany, htoken⟩
      refine ⟨seen, w', hreach, ?_⟩
      rw [hsees hreach, if_pos (List.any_eq_true.2 hany)]
      exact bearer_eq_some.2 htoken
  · obtain ⟨p, hp⟩ := hreach.passesAll.bearer_of_requireAuth hmem
    obtain ⟨tok, hcarries, hverify⟩ := bearer_eq_some.1 hp
    refine ⟨tok, p, hcarries, hverify, ?_⟩
    have hprincipal : seen.context.principal = some p := by
      rw [hsees hreach, if_pos (List.any_eq_true.2 ⟨_, hmem, rfl⟩), hp]
    rw [Context.currentPrincipal, hprincipal]
  -- nothing outside the gate attaches a principal, but the gate has found one
  · rintro outer gate inner rfl houter ⟨seen, w', hreach⟩
    obtain ⟨mid, hbefore, hbehind⟩ := hreach.passesAll.split
    obtain ⟨p, hp⟩ := hbehind.principal_of_requireRoles
    have hany : outer.any isAuth = false := List.any_eq_false.2 fun l hl => by
      rw [houter l hl]
      exact Bool.false_ne_true
    rw [hbefore.principal, hnone, hany] at hp
    cases hp

/-! ## A request with a token -/

/-- The epoch, with a manager of short-lived tokens. -/
def atEpoch : Env := ⟨TokenManager.hourly, TokenManager.epoch, fun _ => "id"⟩

/-- The claims of an access token that is signed at the epoch. -/
def adaClaims : TokenClaims :=
  ⟨"ada", "acme", "ada@acme", ["admin"], .access, TokenManager.epoch,
    TokenManager.epoch, ⟨60, by decide⟩⟩

/-- A request that carries the token, and names a tenant as well. -/
def adaRequest (tenant : Bytes) : Request where
  method := "GET"
  target := "/"
  headers := [("x-tenant-id", tenant), ("authorization",
    Text.bytes ("Bearer " ++ SignedToken.encode TokenManager.hourly.secret adaClaims))]
  body := []
  context := .empty

theorem adaRequest_carries (tenant : Bytes) :
    Bearer.Carries (adaRequest tenant).headers
      (SignedToken.encode TokenManager.hourly.secret adaClaims) :=
  Bearer.carries_encode _ _ rfl

theorem hourly_claims : TokenManager.hourly.claims
    (SignedToken.encode TokenManager.hourly.secret adaClaims) .access = .ok adaClaims :=
  TokenManager.claims_encode (by decide) (by decide) (by decide) (by decide)

theorem atEpoch_verify :
    atEpoch.tokens.verify atEpoch.now (SignedToken.encode TokenManager.hourly.secret adaClaims)
      = .ok adaClaims.principal :=
  (TokenManager.lives_of_claims hourly_claims).within _ (by decide) (by decide)

/-- The token in the request is that of Ada, whatever tenant the request names. -/
theorem adaRequest_authenticate (tenant : Bytes) :
    Bearer.authenticate atEpoch.tokens atEpoch.now (adaRequest tenant).headers
      = .ok adaClaims.principal :=
  Bearer.authenticate_eq_ok.2 ⟨_, adaRequest_carries tenant, atEpoch_verify⟩

/-- So the request gets through the gates, with Ada as its principal. -/
theorem adaRequest_reaches (tenant : Bytes) :
    Reaches atEpoch [.optionalAuth, .requireRoles (.anyOf ["admin"])] (adaRequest tenant) ⟨0, 0⟩
      { adaRequest tenant with context := ⟨some adaClaims.principal, none, none⟩ } ⟨0, 0⟩ := by
  refine reaches_of_enterAll ?_
  rw [enterAll_of_ok (enter_of_authenticate rfl (adaRequest_authenticate tenant))]
  have hgate : (RoleGate.anyOf ["admin"]).permits (some adaClaims.principal) = true := by decide
  refine enterAll_of_ok ?_
  rw [enter]
  exact congrFun (if_pos hgate) _

/-- Behind an optional gate and a role gate the handler sees Ada. -/
theorem principal_behind_stack_atEpoch :
    ∃ seen w', Reaches atEpoch [.optionalAuth, .requireRoles (.anyOf ["admin"])]
        (adaRequest [0x78]) ⟨0, 0⟩ seen w' ∧
      seen.context.principal = some adaClaims.principal :=
  ((principal_behind_stack atEpoch _ (adaRequest [0x78]) ⟨0, 0⟩ rfl).1 _).2
    ⟨⟨_, _, adaRequest_reaches [0x78]⟩, ⟨.optionalAuth, by decide, rfl⟩, _,
      adaRequest_carries [0x78], atEpoch_verify⟩

end TenantAuth.Layer

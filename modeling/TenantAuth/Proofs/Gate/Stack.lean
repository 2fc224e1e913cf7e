import TenantAuth.Gate.Layer

/-!
# Stacks of layers

What a stack of layers lets through to the service behind it. `Reaches` says so in terms of
`wrapAll` alone: whatever the service is, the stack hands it one request and only touches up the
answer. `enterAll` computes that request, `Passes` lists what a single layer can do to it, and
`PassesAll` what a whole stack can.
-/
namespace TenantAuth.Layer

variable {env : Env} {layer : Layer} {layers : List Layer} {r r' seen : Request} {w w' : World}

/-! ## One layer -/

theorem run_bind {α β : Type} {x : StateM World α} {a : α} (h : x w = (a, w'))
    (f : α → StateM World β) : (x >>= f) w = f a w' := by
  show (match x w with
    | (a, w) => f a w) = _
  rw [h]

theorem bind_congr {α β : Type} {x y : StateM World α} (h : x w = y w) (f : α → StateM World β) :
    (x >>= f) w = (y >>= f) w := by
  rcases hy : y w with ⟨a, w'⟩
  rw [run_bind hy, run_bind (h.trans hy)]

/-- A layer that rejects answers by itself. -/
theorem wrap_of_error {rejection : Rejection} (h : layer.enter env r w = (.error rejection, w'))
    (service : Service) : wrap env layer service r w = (rejection.toResponse, w') :=
  run_bind h _

/-- A layer that lets a request in leaves the answer of the service, with what it adds to it. -/
theorem wrap_of_ok (h : layer.enter env r w = (.ok r', w')) (service : Service) :
    wrap env layer service r w = (layer.leave r' (service r' w').1, (service r' w').2) :=
  run_bind h _

/-- On the way out no layer changes the status. -/
theorem status_leave (layer : Layer) (r : Request) (answer : Response) :
    (layer.leave r answer).status = answer.status := by
  unfold leave
  split
  · split <;> rfl
  · rfl

/-- On the way out no layer changes the body. -/
theorem body_leave (layer : Layer) (r : Request) (answer : Response) :
    (layer.leave r answer).body = answer.body := by
  unfold leave
  split
  · split <;> rfl
  · rfl

/-- The correlation layer lets every request through, with the id that is chosen for it. -/
theorem enter_correlationId {id : String} (h : chooseId env r.headers w = (id, w')) :
    enter env .correlationId r w
      = (.ok { r with context := r.context.withCorrelationId id }, w') :=
  run_bind h _

/-! ## All layers -/

/-- The way in through a stack of layers, the first one outermost. -/
def enterAll (env : Env) : List Layer → Request → StateM World (Except Rejection Request)
  | [], r => return .ok r
  | layer :: inner, r => do
    match ← layer.enter env r with
    | .error rejection => return .error rejection
    | .ok r => enterAll env inner r

/-- The first layer that rejects has the last word. -/
theorem enterAll_of_error {rejection : Rejection}
    (h : layer.enter env r w = (.error rejection, w')) :
    enterAll env (layer :: layers) r w = (.error rejection, w') :=
  run_bind h _

theorem enterAll_of_ok (h : layer.enter env r w = (.ok r', w')) :
    enterAll env (layer :: layers) r w = enterAll env layers r' w' :=
  run_bind h _

/-- A request gets through the layers if it gets through the first one and then through the
others. -/
theorem enterAll_cons :
    enterAll env (layer :: layers) r w = (.ok seen, w') ↔
      ∃ r₁ w₁, layer.enter env r w = (.ok r₁, w₁) ∧ enterAll env layers r₁ w₁ = (.ok seen, w') := by
  -- the first layer decides whether the others are asked
  rcases hstep : layer.enter env r w with ⟨result, w₁⟩
  cases result with
  | error rejection =>
    rw [enterAll_of_error hstep]
    constructor
    · intro h
      cases h
    · rintro ⟨r₁, w₁, h, -⟩
      cases h
  | ok r₁ =>
    rw [enterAll_of_ok hstep]
    constructor
    · intro h
      exact ⟨r₁, w₁, rfl, h⟩
    · rintro ⟨r₁', w₁', h, hinner⟩
      cases h
      exact hinner

/-- The service behind the layers is run on `seen`, whatever service it is, and the layers only
touch up what it answers. -/
def Reaches (env : Env) (layers : List Layer) (r : Request) (w : World) (seen : Request)
    (w' : World) : Prop :=
  ∃ finish : Response → Response, ∀ service : Service,
    wrapAll env layers service r w = (finish (service seen w').1, (service seen w').2)

/-- The answer to a request that is not let in says what the rejection says, whatever the
service. -/
theorem wrapAll_of_enterAll_error {rejection : Rejection} {w' : World} :
    ∀ {layers : List Layer} {r : Request} {w : World},
      enterAll env layers r w = (.error rejection, w') →
      ∃ answer, answer.status = rejection.toResponse.status ∧
        answer.body = rejection.toResponse.body ∧
        ∀ service, wrapAll env layers service r w = (answer, w')
  | [], r, w, h => nomatch h
  | layer :: inner, r, w, h => by
    rcases hstep : layer.enter env r w with ⟨result, w₁⟩
    cases result with
    | error rejection' =>
      rw [enterAll_of_error hstep] at h
      cases h
      exact ⟨_, rfl, rfl, fun service => wrap_of_error hstep _⟩
    | ok r₁ =>
      rw [enterAll_of_ok hstep] at h
      obtain ⟨answer, hstatus, hbody, hinner⟩ := wrapAll_of_enterAll_error h
      -- the answer is that of the layers further in, with what this one adds
      refine ⟨layer.leave r₁ answer, ?_, ?_, fun service => ?_⟩
      · rw [status_leave, hstatus]
      · rw [body_leave, hbody]
      · show wrap env layer (wrapAll env inner service) r w = _
        rw [wrap_of_ok hstep, hinner]

/-- The answer to a request that is let in says what the service says. -/
theorem wrapAll_of_enterAll_ok {seen : Request} {w' : World} (service : Service) :
    ∀ {layers : List Layer} {r : Request} {w : World},
      enterAll env layers r w = (.ok seen, w') →
      (wrapAll env layers service r w).1.status = (service seen w').1.status ∧
        (wrapAll env layers service r w).1.body = (service seen w').1.body
  | [], r, w, h => by
    cases h
    exact ⟨rfl, rfl⟩
  | layer :: inner, r, w, h => by
    rcases hstep : layer.enter env r w with ⟨result, w₁⟩
    cases result with
    | error rejection =>
      rw [enterAll_of_error hstep] at h
      cases h
    | ok r₁ =>
      rw [enterAll_of_ok hstep] at h
      show (wrap env layer (wrapAll env inner service) r w).1.status = _ ∧
        (wrap env layer (wrapAll env inner service) r w).1.body = _
      rw [wrap_of_ok hstep, status_leave, body_leave]
      exact wrapAll_of_enterAll_ok service h

theorem reaches_of_enterAll {seen : Request} {w' : World} :
    ∀ {layers : List Layer} {r : Request} {w : World},
      enterAll env layers r w = (.ok seen, w') → Reaches env layers r w seen w'
  | [], r, w, h => by
    cases h
    exact ⟨id, fun _ => rfl⟩
  | layer :: inner, r, w, h => by
    rcases hstep : layer.enter env r w with ⟨result, w₁⟩
    cases result with
    | error rejection =>
      rw [enterAll_of_error hstep] at h
      cases h
    | ok r₁ =>
      rw [enterAll_of_ok hstep] at h
      -- the way out is put together from the inside
      obtain ⟨finish, hinner⟩ := reaches_of_enterAll h
      refine ⟨fun answer => layer.leave r₁ (finish answer), fun service => ?_⟩
      show wrap env layer (wrapAll env inner service) r w = _
      rw [wrap_of_ok hstep, hinner]

/-- **What a service is run on is what the way in gives.** -/
theorem reaches_iff :
    Reaches env layers r w seen w' ↔ enterAll env layers r w = (.ok seen, w') := by
  classical
  refine ⟨fun ⟨finish, hreach⟩ => ?_, reaches_of_enterAll⟩
  -- a service that tells in the world it leaves behind whether it was run on `seen`
  let probe : Service := fun r₁ w₁ =>
    (.empty 200, if r₁ = seen ∧ w₁ = w' then ⟨1, 0⟩ else ⟨0, 0⟩)
  have hprobe : (wrapAll env layers probe r w).2 = ⟨1, 0⟩ := by
    rw [hreach probe]
    exact if_pos ⟨rfl, rfl⟩
  rcases hway : enterAll env layers r w with ⟨result, w₁⟩
  cases result with
  | error rejection =>
    obtain ⟨answer, -, -, hanswer⟩ := wrapAll_of_enterAll_error hway
    let other : Service := fun _ _ => (.empty 200, ⟨0, 0⟩)
    have hother : (wrapAll env layers other r w).2 = ⟨0, 0⟩ := by
      rw [hreach other]
    rw [hanswer] at hprobe hother
    cases hprobe.symm.trans hother
  | ok r₁ =>
    obtain ⟨finish', hreach'⟩ := reaches_of_enterAll hway
    rw [hreach' probe] at hprobe
    by_cases hsame : r₁ = seen ∧ w₁ = w'
    · rw [hsame.1, hsame.2]
    -- the probe was run on something else, and tells
    · have hzero : (probe r₁ w₁).2 = ⟨0, 0⟩ := if_neg hsame
      cases hprobe.symm.trans hzero

/-- A service is reached through the first layer and then through the others. -/
theorem reaches_cons :
    Reaches env (layer :: layers) r w seen w' ↔
      ∃ r₁ w₁, layer.enter env r w = (.ok r₁, w₁) ∧ Reaches env layers r₁ w₁ seen w' := by
  simp only [reaches_iff, enterAll_cons]

/-- A service is run on one request. -/
theorem Reaches.unique {seen' : Request} {w'' : World} (h : Reaches env layers r w seen w')
    (h' : Reaches env layers r w seen' w'') : seen' = seen ∧ w'' = w' := by
  have hway := reaches_iff.1 h
  rw [reaches_iff.1 h'] at hway
  cases hway
  exact ⟨rfl, rfl⟩

/-! ## What layers do to a request -/

/-- The layer looks for a bearer token. -/
def isAuth : Layer → Bool
  | .requireAuth | .optionalAuth => true
  | _ => false

/-- What a layer can make of a request that it lets through. -/
inductive Passes (env : Env) : Layer → Request → Request → Prop
  | authenticated {layer : Layer} {r : Request} {p : Principal} (hauth : layer.isAuth = true)
      (hp : Bearer.authenticate env.tokens env.now r.headers = .ok p) :
      Passes env layer r { r with context := (r.context.attach p).1 }
  | anonymous {r : Request} {e : AuthError}
      (he : Bearer.authenticate env.tokens env.now r.headers = .error e) :
      Passes env .optionalAuth r r
  | tenantKnown {r : Request} {t : String} (ht : r.context.tenantId = some t) :
      Passes env .requireTenant r r
  | tenantNamed {r : Request} {t : String} (hnone : r.context.tenantId = none)
      (ht : tenantField r.headers = some t) :
      Passes env .requireTenant r { r with context := (r.context.scopeTenant t).1 }
  | correlated {r : Request} (id : String) :
      Passes env .correlationId r { r with context := r.context.withCorrelationId id }
  | permitted {r : Request} {gate : RoleGate} (h : gate.permits r.context.principal = true) :
      Passes env (.requireRoles gate) r r

/-- A layer that finds a valid token lets the request through with its principal. -/
theorem enter_of_authenticate {p : Principal} (hauth : layer.isAuth = true)
    (hp : Bearer.authenticate env.tokens env.now r.headers = .ok p) :
    layer.enter env r w = (.ok { r with context := (r.context.attach p).1 }, w) := by
  cases layer with
  | requireAuth =>
    rw [enter, hp]
    rfl
  | optionalAuth =>
    rw [enter, hp]
    rfl
  | requireTenant => cases hauth
  | correlationId => cases hauth
  | requireRoles gate => cases hauth

/-- All that a layer can do: let the request through in one of these ways, or reject it by the
context that it finds; and only the correlation layer changes what requests share. -/
theorem enter_cases {result : Except Rejection Request} (h : layer.enter env r w = (result, w')) :
    ((∃ r', result = .ok r' ∧ Passes env layer r r') ∨ ∃ e, result = .error (r.context.reject e)) ∧
      (layer ≠ .correlationId → w' = w) := by
  -- by the layer, and by what it asks of the request
  cases layer with
  | requireAuth =>
    cases hp : Bearer.authenticate env.tokens env.now r.headers with
    | ok p =>
      rw [enter, hp] at h
      cases h
      exact ⟨.inl ⟨_, rfl, .authenticated rfl hp⟩, fun _ => rfl⟩
    | error e =>
      rw [enter, hp] at h
      cases h
      exact ⟨.inr ⟨e, rfl⟩, fun _ => rfl⟩
  | optionalAuth =>
    cases hp : Bearer.authenticate env.tokens env.now r.headers with
    | ok p =>
      rw [enter, hp] at h
      cases h
      exact ⟨.inl ⟨_, rfl, .authenticated rfl hp⟩, fun _ => rfl⟩
    | error e =>
      rw [enter, hp] at h
      cases h
      exact ⟨.inl ⟨_, rfl, .anonymous hp⟩, fun _ => rfl⟩
  | requireTenant =>
    cases hknown : r.context.tenantId with
    | some t =>
      rw [enter, hknown] at h
      cases h
      exact ⟨.inl ⟨_, rfl, .tenantKnown hknown⟩, fun _ => rfl⟩
    | none =>
      cases ht : tenantField r.headers with
      | some t =>
        rw [enter, hknown, ht] at h
        cases h
        exact ⟨.inl ⟨_, rfl, .tenantNamed hknown ht⟩, fun _ => rfl⟩
      | none =>
        rw [enter, hknown, ht] at h
        cases h
        exact ⟨.inr ⟨.missingTenant, rfl⟩, fun _ => rfl⟩
  | correlationId =>
    rcases hid : chooseId env r.headers w with ⟨id, w₁⟩
    rw [enter_correlationId hid] at h
    cases h
    exact ⟨.inl ⟨_, rfl, .correlated id⟩, fun hne => absurd rfl hne⟩
  | requireRoles gate =>
    cases hpermits : gate.permits r.context.principal with
    | true =>
      rw [enter, hpermits] at h
      cases h
      exact ⟨.inl ⟨_, rfl, .permitted hpermits⟩, fun _ => rfl⟩
    | false =>
      rw [enter, hpermits] at h
      cases h
      exact ⟨.inr ⟨.permissionDenied, rfl⟩, fun _ => rfl⟩

/-- A request that is let in passes in one of the ways that its layer allows. -/
theorem passes_of_enter (h : layer.enter env r w = (.ok r', w')) : Passes env layer r r' := by
  obtain ⟨⟨r₁, hr, hpasses⟩ | ⟨e, he⟩, -⟩ := enter_cases h
  · cases hr
    exact hpasses
  · cases he

/-- What a stack of layers can make of a request that it lets through. -/
inductive PassesAll (env : Env) : List Layer → Request → Request → Prop
  | nil (r : Request) : PassesAll env [] r r
  | cons {layer : Layer} {layers : List Layer} {r r' seen : Request} (hstep : Passes env layer r r')
      (hinner : PassesAll env layers r' seen) : PassesAll env (layer :: layers) r seen

/-- A request that reaches the service has passed each of the layers. -/
theorem Reaches.passesAll (h : Reaches env layers r w seen w') : PassesAll env layers r seen := by
  -- the induction is on the way in, which says nothing of a service
  have hway := reaches_iff.1 h
  clear h
  induction layers generalizing r w with
  | nil =>
    cases hway
    exact .nil _
  | cons layer inner ih =>
    rcases hstep : layer.enter env r w with ⟨result, w₁⟩
    cases result with
    | error rejection =>
      rw [enterAll_of_error hstep] at hway
      cases hway
    | ok r₁ =>
      rw [enterAll_of_ok hstep] at hway
      exact .cons (passes_of_enter hstep) (ih hway)

/-- Somewhere between two parts of a stack stands the request that one hands to the other. -/
theorem PassesAll.split {outer inner : List Layer} (h : PassesAll env (outer ++ inner) r seen) :
    ∃ mid, PassesAll env outer r mid ∧ PassesAll env inner mid seen := by
  induction outer generalizing r with
  | nil => exact ⟨r, .nil r, h⟩
  | cons layer rest ih =>
    rw [List.cons_append] at h
    cases h with
    | cons hstep hinner =>
      obtain ⟨mid, houter, hmid⟩ := ih hinner
      exact ⟨mid, .cons hstep houter, hmid⟩

/-- A layer adds to the context and leaves the rest of the request alone. -/
theorem Passes.frame (h : Passes env layer r r') : r' = { r with context := r'.context } := by
  cases h <;> rfl

/-- On the way in only the context changes. -/
theorem PassesAll.frame (h : PassesAll env layers r seen) :
    seen = { r with context := seen.context } := by
  induction h with
  | nil r => rfl
  | cons hstep hinner ih =>
    rw [hstep.frame] at ih
    exact ih

theorem PassesAll.headers (h : PassesAll env layers r seen) : seen.headers = r.headers := by
  rw [h.frame]

end TenantAuth.Layer

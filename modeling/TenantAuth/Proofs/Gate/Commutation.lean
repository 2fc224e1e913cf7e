import TenantAuth.Proofs.Gate.Tenancy

/-!
# The order of gates

Behind a layer that authenticates, a request has the principal that it will ever have. From there on
what a layer decides depends on that principal and on the fields of the request alone, and what a
layer hands on is the request itself, or the request with the tenant that it names
(`enter_of_settled`). So the layers behind can be put in any order and repeated at will
(`enterAll_of_settled`).
-/
namespace TenantAuth.Layer

variable {env : Env} {layer other first : Layer} {layers : List Layer} {r r' seen : Request}
  {w w' : World}

/-- The request has the principal whose access token it carries, or an earlier one. -/
def Settled (env : Env) (r : Request) : Prop :=
  ∀ p, bearer env r = some p → r.context.principal.isSome

/-- The layer lets a settled request through. -/
def Admits (env : Env) (r : Request) : Layer → Prop
  | .requireAuth => (bearer env r).isSome
  | .requireTenant => r.context.tenantId.isSome ∨ (tenantField r.headers).isSome
  | .requireRoles gate => gate.permits r.context.principal = true
  | .optionalAuth | .correlationId => True

/-- The request with the tenant that it names, where no other is known. -/
def named (r : Request) : Request :=
  match tenantField r.headers with
  | some t => { r with context := (r.context.scopeTenant t).1 }
  | none => r

/-- What the layer makes of a settled request that it lets through. -/
def handsOn (layer : Layer) (r : Request) : Request :=
  match layer with
  | .requireTenant => named r
  | _ => r

/-! ## Naming a tenant -/

/-- A tenant that is known already stays. -/
theorem scopeTenant_of_known {c : Context} {t : String} (h : c.tenantId = some t) (t' : String) :
    (c.scopeTenant t').1 = c := by
  rw [Context.scopeTenant, h]

/-- A request whose tenant is known is not named anew. -/
theorem named_of_known {t : String} (h : r.context.tenantId = some t) : named r = r := by
  unfold named
  cases tenantField r.headers with
  | none => rfl
  | some t' =>
    dsimp only
    rw [scopeTenant_of_known h]

/-- Otherwise it takes the tenant of its field. -/
theorem named_of_field {t : String} (h : tenantField r.headers = some t) :
    named r = { r with context := (r.context.scopeTenant t).1 } := by
  rw [named, h]

theorem headers_named (r : Request) : (named r).headers = r.headers := by
  unfold named
  cases tenantField r.headers with
  | none => rfl
  | some t => rfl

theorem principal_named (r : Request) : (named r).context.principal = r.context.principal := by
  unfold named
  cases tenantField r.headers with
  | none => rfl
  | some t => exact principal_scopeTenant _ t

/-- A tenant is known after naming just when one was known or named before. -/
theorem isSome_tenantId_named (r : Request) :
    (named r).context.tenantId.isSome ↔
      r.context.tenantId.isSome ∨ (tenantField r.headers).isSome := by
  cases hknown : r.context.tenantId with
  | some t =>
    rw [named_of_known hknown, hknown]
    simp
  | none =>
    -- where no tenant is known the field has to name one
    cases hfield : tenantField r.headers with
    | none =>
      have hsame : named r = r := by rw [named, hfield]
      rw [hsame, hknown]
      simp
    | some t =>
      rw [named_of_field hfield, Context.scopeTenant, hknown, Context.tenantId]
      simp

/-- A tenant is named once. -/
theorem named_named (r : Request) : named (named r) = named r := by
  cases hfield : tenantField r.headers with
  | none =>
    have hsame : named r = r := by rw [named, hfield]
    rw [hsame, hsame]
  | some t =>
    have hknown : (named r).context.tenantId.isSome :=
      (isSome_tenantId_named r).2 (.inr (by rw [hfield]; rfl))
    obtain ⟨t', ht'⟩ := Option.isSome_iff_exists.1 hknown
    exact named_of_known ht'

/-! ## One layer -/

/-- Only the gate that asks for a tenant hands on anything new. -/
theorem handsOn_of_ne (h : layer ≠ .requireTenant) (r : Request) : layer.handsOn r = r := by
  cases layer with
  | requireTenant => exact absurd rfl h
  | requireAuth => rfl
  | optionalAuth => rfl
  | correlationId => rfl
  | requireRoles gate => rfl

theorem headers_handsOn (layer : Layer) (r : Request) : (layer.handsOn r).headers = r.headers := by
  by_cases h : layer = .requireTenant
  · rw [h]
    exact headers_named r
  · rw [handsOn_of_ne h]

theorem principal_handsOn (layer : Layer) (r : Request) :
    (layer.handsOn r).context.principal = r.context.principal := by
  by_cases h : layer = .requireTenant
  · rw [h]
    exact principal_named r
  · rw [handsOn_of_ne h]

/-- What a gate hands on carries the same token. -/
theorem bearer_handsOn (layer : Layer) (r : Request) :
    bearer env (layer.handsOn r) = bearer env r := by
  rw [bearer, bearer, headers_handsOn]

/-- A request stays settled on its way through the gates. -/
theorem Settled.handsOn (h : Settled env r) (layer : Layer) : Settled env (layer.handsOn r) := by
  intro p hp
  rw [bearer_handsOn] at hp
  rw [principal_handsOn]
  exact h p hp

/-- **What a layer decides does not depend on the layers before it.** -/
theorem admits_handsOn : Admits env (other.handsOn r) layer ↔ Admits env r layer := by
  cases layer with
  | requireAuth =>
    unfold Admits
    rw [bearer_handsOn]
  | requireTenant =>
    unfold Admits
    rw [headers_handsOn]
    by_cases h : other = .requireTenant
    -- only a second tenant gate finds anything new, and that is what it asks for
    · rw [h]
      show (named r).context.tenantId.isSome ∨ _ ↔ _
      rw [isSome_tenantId_named, or_assoc, or_self]
    · rw [handsOn_of_ne h]
  | requireRoles gate =>
    unfold Admits
    rw [principal_handsOn]
  | optionalAuth => rfl
  | correlationId => rfl

/-- Nobody is attached to a settled request any more. -/
theorem Settled.attach {p : Principal} (h : Settled env r) (hp : bearer env r = some p) :
    (r.context.attach p).1 = r.context := by
  obtain ⟨q, hq⟩ := Option.isSome_iff_exists.1 (h p hp)
  rw [Context.attach, hq]

/-- A settled request is let through or not by what it says itself, and nothing else changes. -/
theorem enter_of_settled (h : Settled env r) (hlayer : layer ≠ .correlationId) :
    layer.enter env r w = (.ok r', w') ↔ Admits env r layer ∧ r' = layer.handsOn r ∧ w' = w := by
  -- passing and being stopped are told apart by the result
  have hpassed : ∀ {x : Request}, (Except.ok x, w) = (Except.ok (ε := Rejection) r', w') ↔
      r' = x ∧ w' = w := by
    intro x
    simp only [Prod.mk.injEq, Except.ok.injEq, eq_comm]
  have hstopped : ∀ {e : Rejection}, ¬ (Except.error e, w) = (Except.ok r', w') := by
    intro e he
    cases he
  cases layer with
  | requireAuth =>
    cases hp : Bearer.authenticate env.tokens env.now r.headers with
    | ok p =>
      have hbearer : bearer env r = some p := by rw [bearer, hp]; rfl
      rw [enter_of_authenticate rfl hp, h.attach hbearer, hpassed]
      simp only [Admits, hbearer, Option.isSome_some, true_and]
      rfl
    | error e =>
      have hbearer : bearer env r = none := by rw [bearer, hp]; rfl
      rw [enter, hp]
      simp only [Admits, hbearer, Option.isSome_none, Bool.false_eq_true, false_and, iff_false]
      exact hstopped
  | optionalAuth =>
    cases hp : Bearer.authenticate env.tokens env.now r.headers with
    | ok p =>
      have hbearer : bearer env r = some p := by rw [bearer, hp]; rfl
      rw [enter_of_authenticate rfl hp, h.attach hbearer, hpassed]
      simp only [Admits, true_and]
      rfl
    | error e =>
      rw [enter, hp]
      simp only [Admits, true_and]
      exact hpassed
  -- the tenant gate is the only one that may hand on something new
  | requireTenant =>
    cases hknown : r.context.tenantId with
    | some t =>
      rw [enter, hknown]
      simp only [Admits, hknown, Option.isSome_some, true_or, true_and, Layer.handsOn,
        named_of_known hknown]
      exact hpassed
    | none =>
      cases hfield : tenantField r.headers with
      | some t =>
        rw [enter, hknown, hfield]
        simp only [Admits, hfield, Option.isSome_some, or_true, true_and, Layer.handsOn,
          named_of_field hfield]
        exact hpassed
      | none =>
        rw [enter, hknown, hfield]
        simp only [Admits, hknown, hfield, Option.isSome_none, Bool.false_eq_true, or_self,
          false_and, iff_false]
        exact hstopped
  | correlationId => exact absurd rfl hlayer
  | requireRoles gate =>
    cases hgate : gate.permits r.context.principal with
    | true =>
      rw [enter, hgate]
      simp only [Admits, hgate, true_and]
      exact hpassed
    | false =>
      rw [enter, hgate]
      simp only [Admits, hgate, Bool.false_eq_true, false_and, iff_false]
      exact hstopped

/-- Behind a layer that authenticates, a request is settled. -/
theorem settled_of_enter (hauth : first.isAuth = true) (h : first.enter env r w = (.ok r', w')) :
    Settled env r' := by
  intro p hp
  have hpasses := passes_of_enter h
  rw [hpasses.bearer_eq] at hp
  rw [hpasses.principal, if_pos hauth, hp, Option.isSome_or]
  exact Bool.or_true _

/-! ## All layers -/

/-- **A settled request is let through by a stack just when each of its layers lets it through,**
and is handed on with the tenant it names if any of the layers demands one. -/
theorem enterAll_of_settled (h : Settled env r) (hlayers : .correlationId ∉ layers) :
    enterAll env layers r w = (.ok seen, w') ↔
      (∀ l ∈ layers, Admits env r l) ∧
        seen = (if .requireTenant ∈ layers then named r else r) ∧ w' = w := by
  induction layers generalizing r with
  | nil =>
    have hdone : enterAll env [] r w = (.ok r, w) := rfl
    rw [hdone, if_neg List.not_mem_nil]
    constructor
    · intro heq
      cases heq
      exact ⟨fun l hl => absurd hl List.not_mem_nil, rfl, rfl⟩
    · rintro ⟨-, rfl, rfl⟩
      rfl
  | cons layer inner ih =>
    have hlayer : layer ≠ .correlationId := fun heq => hlayers (heq ▸ List.mem_cons_self)
    have hinner : .correlationId ∉ inner := fun hmem => hlayers (List.mem_cons_of_mem layer hmem)
    -- the layers behind are asked about what this one hands on, and say the same of it
    have hstep : enterAll env (layer :: inner) r w = (.ok seen, w') ↔ Admits env r layer ∧
        (∀ l ∈ inner, Admits env r l) ∧
          seen = (if .requireTenant ∈ inner then named (layer.handsOn r) else layer.handsOn r) ∧
          w' = w := by
      simp only [enterAll_cons, enter_of_settled h hlayer, and_assoc, exists_and_left,
        exists_eq_left, ih (h.handsOn layer) hinner, admits_handsOn]
    have hhanded : (if .requireTenant ∈ inner then named (layer.handsOn r) else layer.handsOn r)
        = if .requireTenant ∈ layer :: inner then named r else r := by
      by_cases htenant : layer = .requireTenant
      · rw [htenant, if_pos List.mem_cons_self]
        show (if _ then named (named r) else named r) = _
        rw [named_named, ite_self]
      · have hmem : .requireTenant ∈ layer :: inner ↔ .requireTenant ∈ inner := by
          rw [List.mem_cons]
          exact or_iff_right fun heq => htenant heq.symm
        rw [handsOn_of_ne htenant]
        simp only [hmem]
    rw [hstep, hhanded, List.forall_mem_cons, and_assoc]

/-- **Behind a layer that authenticates, gates commute and are idempotent.** Stacks of the same
gates, in whatever order and however often each, run the service for the same requests, and for the
same principal and tenant. They do so just when each of the gates would, alone behind the layer
that authenticates. -/
theorem gates_commute (env : Env) (first : Layer) (layers layers' : List Layer) (r : Request)
    (w : World) (hauth : first.isAuth = true) (hlayers : .correlationId ∉ layers)
    (hsame : ∀ l, l ∈ layers' ↔ l ∈ layers) :
    (∀ seen w', Reaches env (first :: layers') r w seen w' ↔
      Reaches env (first :: layers) r w seen w') ∧
    (∀ seen w' seen' w'', Reaches env (first :: layers) r w seen w' →
      Reaches env (first :: layers') r w seen' w'' →
      seen'.context.principal = seen.context.principal ∧
        seen'.context.tenantId = seen.context.tenantId) ∧
    ((∃ seen w', Reaches env (first :: layers) r w seen w') ↔
      (∃ seen w', Reaches env [first] r w seen w') ∧
        ∀ l ∈ layers, ∃ seen w', Reaches env [first, l] r w seen w') := by
  have hlayers' : .correlationId ∉ layers' := fun hmem => hlayers ((hsame _).1 hmem)
  have hreach : ∀ seen w', Reaches env (first :: layers') r w seen w' ↔
      Reaches env (first :: layers) r w seen w' := by
    intro seen w'
    rw [reaches_cons, reaches_cons]
    refine exists_congr fun r₁ => exists_congr fun w₁ => and_congr_right fun hfirst => ?_
    have hsettled := settled_of_enter hauth hfirst
    simp only [reaches_iff, enterAll_of_settled hsettled hlayers,
      enterAll_of_settled hsettled hlayers', hsame]
  refine ⟨hreach, fun seen w' seen' w'' h h' => ?_, ?_⟩
  · rw [(h.unique ((hreach _ _).1 h')).1]
    exact ⟨rfl, rfl⟩
  -- where the first layer rejects, neither the stack nor any part of it comes through
  rcases hfirst : first.enter env r w with ⟨result, w₁⟩
  cases result with
  | error rejection =>
    have hnever : ∀ {inner : List Layer} {seen : Request} {w' : World},
        ¬ Reaches env (first :: inner) r w seen w' := by
      intro inner seen w' hreach
      obtain ⟨r₁, w₁', h, -⟩ := reaches_cons.1 hreach
      rw [hfirst] at h
      cases h
    constructor
    · rintro ⟨seen, w', h⟩
      exact absurd h hnever
    · rintro ⟨⟨seen, w', h⟩, -⟩
      exact absurd h hnever
  | ok r₁ =>
    have hsettled := settled_of_enter hauth hfirst
    -- behind the first layer a stack comes through where each of its layers admits the request
    have hruns : ∀ {inner : List Layer}, .correlationId ∉ inner →
        ((∃ seen w', Reaches env (first :: inner) r w seen w') ↔ ∀ l ∈ inner, Admits env r₁ l) := by
      intro inner hinner
      simp only [reaches_iff, enterAll_of_ok hfirst, enterAll_of_settled hsettled hinner,
        exists_and_left, exists_eq, and_true]
    have hsingle : ∀ l ∈ layers, ((∃ seen w', Reaches env [first, l] r w seen w') ↔
        Admits env r₁ l) := by
      intro l hl
      have hne : .correlationId ∉ [l] := fun hmem => hlayers (List.mem_singleton.1 hmem ▸ hl)
      rw [hruns hne]
      simp only [List.mem_singleton, forall_eq]
    rw [hruns hlayers, hruns List.not_mem_nil]
    constructor
    · intro hall
      exact ⟨fun l hl => absurd hl List.not_mem_nil, fun l hl => (hsingle l hl).2 (hall l hl)⟩
    · rintro ⟨-, hall⟩ l hl
      exact (hsingle l hl).1 (hall l hl)

/-- Gates that the request of `adaRequest` passes behind a layer that authenticates. -/
def adaGates : List Layer := [.requireTenant, .requireRoles (.anyOf ["admin"]), .requireAuth]

/-- The same gates in another order, one of them twice. -/
def adaGatesAgain : List Layer :=
  [.requireRoles (.anyOf ["admin"]), .requireAuth, .requireRoles (.anyOf ["admin"]), .requireTenant]

theorem adaGates_reach (tenant : Bytes) :
    ∃ seen w', Reaches atEpoch (.optionalAuth :: adaGates) (adaRequest tenant) ⟨0, 0⟩ seen w' ∧
      seen.context.tenantId = some "acme" := by
  have hauthenticate := adaRequest_authenticate tenant
  let passed : Request :=
    { adaRequest tenant with context := ⟨some adaClaims.principal, none, none⟩ }
  -- the first gate attaches Ada, and behind it the request is settled
  have hfirst : enter atEpoch .optionalAuth (adaRequest tenant) ⟨0, 0⟩ = (.ok passed, ⟨0, 0⟩) :=
    enter_of_authenticate rfl hauthenticate
  have hknown : passed.context.tenantId = some "acme" := rfl
  have hbearer : bearer atEpoch passed = some adaClaims.principal := by
    show (Bearer.authenticate _ _ (adaRequest tenant).headers).toOption = _
    rw [hauthenticate]
    rfl
  have hgate : (RoleGate.anyOf ["admin"]).permits (some adaClaims.principal) = true := by decide
  have hroles : (RoleGate.anyOf ["admin"]).permits passed.context.principal = true := hgate
  have hadmits : ∀ l ∈ adaGates, Admits atEpoch passed l := by
    simp only [adaGates, List.forall_mem_cons, List.not_mem_nil, false_implies, implies_true,
      Admits, hknown, hbearer, hroles, Option.isSome_some, true_or, and_self]
  have hinner : enterAll atEpoch adaGates passed ⟨0, 0⟩ = (.ok passed, ⟨0, 0⟩) := by
    refine (enterAll_of_settled (settled_of_enter rfl hfirst) (by decide)).2 ⟨hadmits, ?_, rfl⟩
    rw [named_of_known hknown, ite_self]
  exact ⟨passed, ⟨0, 0⟩, reaches_cons.2 ⟨_, _, hfirst, reaches_of_enterAll hinner⟩, hknown⟩

/-- The gates around Ada's request let it through in another order too. -/
theorem gates_commute_atEpoch :
    ∃ seen w', Reaches atEpoch (.optionalAuth :: adaGatesAgain) (adaRequest [0x78]) ⟨0, 0⟩ seen w' ∧
      seen.context.tenantId = some "acme" := by
  obtain ⟨seen, w', hreach, htenant⟩ := adaGates_reach [0x78]
  have hsame : ∀ l, l ∈ adaGatesAgain ↔ l ∈ adaGates := by
    intro l
    simp only [adaGates, adaGatesAgain, List.mem_cons, List.not_mem_nil, or_false]
    grind
  exact ⟨seen, w', ((gates_commute atEpoch .optionalAuth adaGates adaGatesAgain (adaRequest [0x78])
    ⟨0, 0⟩ rfl (by decide) hsame).1 seen w').2 hreach, htenant⟩

end TenantAuth.Layer

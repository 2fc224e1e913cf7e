import TenantAuth.Proofs.Gate.Authentication

/-!
# What an access token opens

A request that bears an access token passes `requireAuth` wherever that stands in a stack of layers,
and behind it is served for the principal of the token.
-/
namespace TenantAuth

/-- The request is known to be nobody's yet, and its first `Authorization` field is the word
`Bearer`, a space and the token. -/
structure Request.Bears (r : Request) (token : String) : Prop where
  anonymous : r.context.principal = none
  field : r.headers.first? "authorization" = some (Text.bytes ("Bearer " ++ token))

namespace Layer

variable {env : Env} {layers outer inner : List Layer} {r mid seen : Request} {w w' : World}
  {token : String} {p : Principal}

/-- The token is worth the principal to `requireAuth`: requests that bear it pass, and what stands
behind the gate is run for the principal. -/
structure Opens (env : Env) (token : String) (p : Principal) : Prop where
  passes : ∀ {r mid : Request} {outer : List Layer} {w w' : World}, r.Bears token →
    enterAll env outer r w = (.ok mid, w') →
    ∃ passed, enter env .requireAuth mid w' = (.ok passed, w') ∧ passed.context.principal = some p
  attaches : ∀ {r seen : Request} {outer inner : List Layer} {w w' : World}, r.Bears token →
    Reaches env (outer ++ .requireAuth :: inner) r w seen w' → seen.context.principal = some p

/-- A stack attaches nobody but the principal of the token, if anyone. -/
theorem PassesAll.principal_of_bearer (h : PassesAll env layers r seen)
    (hnone : r.context.principal = none) (hbearer : bearer env r = some p) :
    seen.context.principal = if layers.any isAuth then some p else none := by
  rw [h.principal, hnone, hbearer, Option.none_or]

/-- **A signed access token opens what `requireAuth` guards,** from its start to its expiry. -/
theorem opens_encode {c : TokenClaims}
    (hclaims : env.tokens.claims (SignedToken.encode env.tokens.secret c) .access = .ok c)
    (hstart : c.notBefore ≤ env.now) (hend : env.now ≤ c.expiry) :
    Opens env (SignedToken.encode env.tokens.secret c) c.principal := by
  have hverify : env.tokens.verify env.now (SignedToken.encode env.tokens.secret c)
      = .ok c.principal :=
    (TokenManager.lives_of_claims hclaims).within env.now hstart hend
  have hauthenticate : ∀ {r : Request}, r.Bears (SignedToken.encode env.tokens.secret c) →
      Bearer.authenticate env.tokens env.now r.headers = .ok c.principal := fun hbears =>
    Bearer.authenticate_eq_ok.2 ⟨_, Bearer.carries_encode _ _ hbears.field, hverify⟩
  have hbearer : ∀ {r : Request}, r.Bears (SignedToken.encode env.tokens.secret c) →
      bearer env r = some c.principal := by
    intro r hbears
    rw [bearer, hauthenticate hbears]
    rfl
  constructor
  · intro r mid outer w w' hbears hway
    have hpasses := (reaches_of_enterAll hway).passesAll
    have hmid : Bearer.authenticate env.tokens env.now mid.headers = .ok c.principal := by
      rw [hpasses.headers]
      exact hauthenticate hbears
    refine ⟨_, enter_of_authenticate rfl hmid, ?_⟩
    -- an outer layer may have attached the principal before
    rw [principal_attach, hpasses.principal_of_bearer hbears.anonymous (hbearer hbears)]
    cases outer.any isAuth with
    | false => rfl
    | true => rfl
  · intro r seen outer inner w w' hbears hreach
    rw [hreach.passesAll.principal_of_bearer hbears.anonymous (hbearer hbears)]
    simp [isAuth]

end Layer

end TenantAuth

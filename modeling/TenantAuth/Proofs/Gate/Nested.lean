import TenantAuth.Proofs.Gate.Tagging

/-!
# Correlation layers inside one another

Each correlation layer chooses an id anew, and overwrites what the one around it has put into the
context; on the way out each overwrites what the one inside it has put into the answer. So what a
request is told behind several of them is the id of the innermost (`idOf_enterAll`), and what its
answer names is that of the outermost (`field_of_depth_pos`).
-/
namespace TenantAuth.Layer

open Correlation (fieldName)

variable {env : Env} {layer : Layer} {layers : List Layer} {h : Headers} {r r' seen : Request}
  {w w' : World} {rejection : Rejection} {service : Service}

/-! ## Ids by depth -/

/-- The id that is chosen for a request by the correlation layer which stands behind `n` others. -/
def chosen (env : Env) (h : Headers) (w : World) (n : Nat) : String :=
  (Correlation.inbound h).getD (env.fresh (w.minted + n))

/-- The id of a request behind `n` correlation layers: that of the innermost. -/
def told (env : Env) (r : Request) (w : World) : Nat → Option String
  | 0 => r.context.correlationId
  | n + 1 => some (chosen env r.headers w n)

/-- The layers that let a request through, up to the first that does not. -/
def passed (env : Env) : List Layer → Request → World → List Layer
  | [], _, _ => []
  | layer :: inner, r, w =>
    match layer.enter env r w with
    | (.error _, _) => []
    | (.ok r', w') => layer :: passed env inner r' w'

/-- The number of correlation layers that a request goes through. -/
def depth (env : Env) (layers : List Layer) (r : Request) (w : World) : Nat :=
  (passed env layers r w).count .correlationId

/-- No other layer counts as a correlation layer. -/
theorem count_of_ne (hne : layer ≠ .correlationId) : [layer].count .correlationId = 0 := by
  rw [List.count_eq_zero, List.mem_singleton]
  exact Ne.symm hne

/-- A request that is rejected at once has gone through no correlation layer. -/
theorem depth_of_error (henter : layer.enter env r w = (.error rejection, w')) :
    depth env (layer :: layers) r w = 0 := by
  unfold depth passed
  rw [henter]
  rfl

/-- The depth of a stack is that of the layers further in, and one more behind a correlation
layer. -/
theorem depth_of_ok (henter : layer.enter env r w = (.ok r', w')) :
    depth env (layer :: layers) r w = depth env layers r' w' + [layer].count .correlationId := by
  unfold depth
  rw [passed, henter, List.count_cons, List.count_singleton]

/-- **Ids agree** just when there is one of them, or the request brings it, or two fresh ones are
the same. -/
theorem chosen_eq_iff {n : Nat} :
    chosen env h w 0 = chosen env h w n ↔
      (Correlation.inbound h).isSome ∨ env.fresh w.minted = env.fresh (w.minted + n) := by
  unfold chosen
  cases Correlation.inbound h with
  | some id => simp
  | none => simp

/-! ## One layer -/

/-- The correlation layer takes the first of the ids, and leaves the others to those inside. -/
theorem exists_enter_correlationId (env : Env) (r : Request) (w : World) :
    ∃ w', enter env .correlationId r w =
        (.ok { r with context := r.context.withCorrelationId (chosen env r.headers w 0) }, w') ∧
      ∀ n, chosen env r.headers w' n = chosen env r.headers w (n + 1) := by
  -- an id that the request brings is chosen every time; otherwise the fresh ones move up by one
  cases hinbound : Correlation.inbound r.headers with
  | some id =>
    have hid : chooseId env r.headers w = (id, w) := by
      unfold chooseId
      rw [hinbound]
      rfl
    have hchosen : ∀ w n, chosen env r.headers w n = id := by
      intro w n
      unfold chosen
      rw [hinbound]
      rfl
    refine ⟨w, ?_, fun n => ?_⟩
    · rw [enter_correlationId hid, hchosen]
    · rw [hchosen, hchosen]
  | none =>
    have hid : chooseId env r.headers w =
        (env.fresh w.minted, { w with minted := w.minted + 1 }) := by
      unfold chooseId
      rw [hinbound]
      rfl
    have hchosen : ∀ w n, chosen env r.headers w n = env.fresh (w.minted + n) := by
      intro w n
      unfold chosen
      rw [hinbound]
      rfl
    refine ⟨{ w with minted := w.minted + 1 }, ?_, fun n => ?_⟩
    · rw [enter_correlationId hid, hchosen]
      rfl
    · rw [hchosen, hchosen]
      show env.fresh (w.minted + 1 + n) = env.fresh (w.minted + (n + 1))
      rw [Nat.add_assoc, Nat.add_comm 1 n]

/-- Ids are words, whether they are brought or made. -/
theorem isWord_chosen
    (hfresh : ∀ n, ∃ bs : Bytes, bs.length = 16 ∧ env.fresh n = Correlation.uuid bs) (h : Headers)
    (w : World) (n : Nat) : Correlation.IsWord (Text.bytes (chosen env h w n)) := by
  rcases hid : chooseId env h { w with minted := w.minted + n } with ⟨id, w'⟩
  -- the choice number `n` is the first one in a world where `n` more ids are minted
  have hchosen : chosen env h w n = id := by
    unfold chooseId at hid
    unfold chosen
    cases hinbound : Correlation.inbound h with
    | some inbound =>
      rw [hinbound] at hid
      exact congrArg Prod.fst hid
    | none =>
      rw [hinbound] at hid
      exact congrArg Prod.fst hid
  rw [hchosen]
  exact (chooses_of_chooseId hfresh hid).word

/-- What a request is told behind a layer, in terms of what it is told in front of it. -/
theorem told_of_enter (henter : layer.enter env r w = (.ok r', w')) (n : Nat) :
    told env r' w' n = told env r w (n + [layer].count .correlationId) := by
  by_cases hlayer : layer = .correlationId
  · subst hlayer
    obtain ⟨w₁, henter', hnext⟩ := exists_enter_correlationId env r w
    rw [henter'] at henter
    cases henter
    -- behind a correlation layer the first id is the one that it stored
    cases n with
    | zero => rfl
    | succ n => exact congrArg some (hnext n)
  · have hpasses := passes_of_enter henter
    rw [count_of_ne hlayer, (enter_cases henter).2 hlayer]
    cases n with
    | zero => exact hpasses.correlationId_eq hlayer
    | succ n =>
      unfold told
      rw [hpasses.frame]

/-! ## All layers -/

/-- The id that a request goes on with, or a rejection answers with. -/
def idOf : Except Rejection Request → Option String
  | .ok seen => seen.context.correlationId
  | .error rejection => rejection.correlationId

/-- **On its way through a stack of layers a request has the id of the innermost** that it has
entered. -/
theorem idOf_enterAll (env : Env) (layers : List Layer) (r : Request) (w : World) :
    idOf (enterAll env layers r w).1 = told env r w (depth env layers r w) := by
  induction layers generalizing r w with
  | nil => rfl
  | cons layer inner ih =>
    rcases henter : layer.enter env r w with ⟨result, w₁⟩
    cases result with
    | error rejection =>
      rw [enterAll_of_error henter, depth_of_error henter]
      exact correlationId_of_enter_error henter
    | ok r₁ => rw [enterAll_of_ok henter, ih, told_of_enter henter, depth_of_ok henter]

/-- A request that gets through has the id that it was told last. -/
theorem correlationId_of_enterAll (hway : enterAll env layers r w = (.ok seen, w')) :
    seen.context.correlationId = told env r w (depth env layers r w) := by
  rw [← idOf_enterAll, hway]
  rfl

/-- And so it is by what rejects it on the way. -/
theorem rejected_under_told (hway : enterAll env layers r w = (.error rejection, w')) :
    rejection.correlationId = told env r w (depth env layers r w) := by
  rw [← idOf_enterAll, hway]
  rfl

/-- No other layer touches the answer. -/
theorem leave_of_ne (hne : layer ≠ .correlationId) (r : Request) (answer : Response) :
    layer.leave r answer = answer := by
  cases layer with
  | correlationId => exact absurd rfl hne
  | requireAuth => rfl
  | optionalAuth => rfl
  | requireTenant => rfl
  | requireRoles gate => rfl

/-- **The answer names the id of the outermost correlation layer,** in one field. -/
theorem field_of_depth_pos
    (hfresh : ∀ n, ∃ bs : Bytes, bs.length = 16 ∧ env.fresh n = Correlation.uuid bs)
    (hdepth : 0 < depth env layers r w) (service : Service) :
    (wrapAll env layers service r w).1.headers.filter (·.1 = fieldName)
      = [(fieldName, Text.bytes (chosen env r.headers w 0))] := by
  -- the outermost correlation layer is the last to write the field
  induction layers generalizing r w with
  | nil => exact absurd hdepth (Nat.lt_irrefl 0)
  | cons layer inner ih =>
    rcases henter : layer.enter env r w with ⟨result, w₁⟩
    cases result with
    | error rejection =>
      rw [depth_of_error henter] at hdepth
      exact absurd hdepth (Nat.lt_irrefl 0)
    | ok r₁ =>
      show (wrap env layer (wrapAll env inner service) r w).1.headers.filter _ = _
      rw [wrap_of_ok henter]
      by_cases hlayer : layer = .correlationId
      · subst hlayer
        obtain ⟨w', henter', -⟩ := exists_enter_correlationId env r w
        rw [henter'] at henter
        cases henter
        exact leave_correlationId rfl (isWord_chosen hfresh r.headers w 0) _
      · -- another layer goes through with the same request and the same ids
        rw [depth_of_ok henter, count_of_ne hlayer] at hdepth
        have hinner := ih hdepth
        rw [(passes_of_enter henter).frame, (enter_cases henter).2 hlayer] at hinner
        rw [leave_of_ne hlayer]
        rw [(passes_of_enter henter).frame, (enter_cases henter).2 hlayer]
        exact hinner

/-- Where no correlation layer is entered, the answer names an id only if the service does. -/
theorem field_of_depth_zero (hdepth : depth env layers r w = 0)
    (hservice : ∀ seen w', (service seen w').1.headers.filter (·.1 = fieldName) = []) :
    (wrapAll env layers service r w).1.headers.filter (·.1 = fieldName) = [] := by
  -- no layer that the request goes through writes the field
  induction layers generalizing r w with
  | nil => exact hservice r w
  | cons layer inner ih =>
    show (wrap env layer (wrapAll env inner service) r w).1.headers.filter _ = _
    rcases henter : layer.enter env r w with ⟨result, w₁⟩
    cases result with
    | error rejection =>
      rw [wrap_of_error henter]
      rfl
    | ok r₁ =>
      rw [depth_of_ok henter, Nat.add_eq_zero_iff, List.count_eq_zero, List.mem_singleton] at hdepth
      rw [wrap_of_ok henter, leave_of_ne (Ne.symm hdepth.2)]
      exact ih hdepth.1

end TenantAuth.Layer

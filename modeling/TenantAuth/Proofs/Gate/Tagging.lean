import TenantAuth.Proofs.Envelope.ErrorEnvelope
import TenantAuth.Proofs.Gate.Correlation
import TenantAuth.Proofs.Gate.Stack

/-!
# The id of a request on its way

The correlation layer chooses an id once (`chooses_of_chooseId`), and no other layer changes it: the
context of a request keeps it all the way in, every rejection on the way is tagged with it, and on
the way out the answer names it in one field, since an id can always stand in one.
-/
namespace TenantAuth

open Json.Reader (whole)

/-! ## Envelopes with an id -/

/-- The body is an error envelope that names the id. -/
def ErrorEnvelope.Names (body : Bytes) (id : String) : Prop :=
  ∃ e, whole ErrorEnvelope.reader body = .ok e ∧ e.correlationId = some id

/-- An id that is not empty is written. -/
theorem filter_nonempty {id? : Option String} (hne : id? ≠ some "") :
    id?.filter (fun id => !id.isEmpty) = id? := by
  cases id? with
  | none => rfl
  | some id =>
    have hempty : id.isEmpty = false := by
      rw [Bool.eq_false_iff, ne_eq, String.isEmpty_iff]
      rintro rfl
      exact hne rfl
    rw [Option.filter_some, hempty]
    rfl

namespace Rejection

variable {rejection : Rejection} {id : String}

/-- The body of a rejection is an envelope with its id. -/
theorem reads (hne : rejection.correlationId ≠ some "") :
    ∃ e, whole ErrorEnvelope.reader rejection.toResponse.body = .ok e ∧
      e.correlationId = rejection.correlationId :=
  ⟨_, (ErrorEnvelope.reads_reader _).whole, filter_nonempty hne⟩

/-- The body of a rejection with an id names the id. -/
theorem names (hid : rejection.correlationId = some id) (hne : id ≠ "") :
    ErrorEnvelope.Names rejection.toResponse.body id := by
  rw [ErrorEnvelope.Names, ← hid]
  refine rejection.reads ?_
  rw [hid]
  simpa using hne

/-- Every rejection has the status of an error. -/
theorem status_toResponse (rejection : Rejection) : 400 ≤ rejection.toResponse.status := by
  have hcode : ∀ code : ErrorCode, 400 ≤ code.status := by
    intro code
    cases code <;> decide
  exact hcode _

end Rejection

namespace Layer

variable {env : Env} {layer : Layer} {layers : List Layer} {h : Headers} {r r' seen : Request}
  {w w' : World} {id : String} {rejection : Rejection}

/-! ## Choosing an id -/

/-- How an id is chosen: the first inbound one is kept if it is a word within spaces and tabs, and
otherwise the next of the fresh ids is taken. -/
structure Chooses (env : Env) (h : Headers) (w : World) (id : String) (w' : World) : Prop where
  word : Correlation.IsWord (Text.bytes id)
  kept : ∀ value, h.first? Correlation.fieldName = some value →
    Correlation.IsWord (Correlation.strip value) →
    Text.bytes id = Correlation.strip value ∧ w' = w
  minted : (∀ value, h.first? Correlation.fieldName = some value →
      ¬ Correlation.IsWord (Correlation.strip value)) →
    id = env.fresh w.minted ∧ Correlation.IsUuid id ∧ w' = { w with minted := w.minted + 1 }

/-- A correlation layer chooses its id in this way. -/
theorem chooses_of_chooseId
    (hfresh : ∀ n, ∃ bs : Bytes, bs.length = 16 ∧ env.fresh n = Correlation.uuid bs)
    (hid : chooseId env h w = (id, w')) : Chooses env h w id w' := by
  rw [chooseId] at hid
  cases hinbound : Correlation.inbound h with
  | some inbound =>
    rw [hinbound] at hid
    cases hid
    obtain ⟨value, hvalue, haccept⟩ := Option.bind_eq_some_iff.1 hinbound
    obtain ⟨hword, hstripped⟩ := Correlation.accept_eq_some.1 haccept
    have hbytes : Text.bytes id = Correlation.strip value := by
      rw [← hstripped]
      exact Text.bytes_ofAscii fun x hx => Correlation.lt_of_mem_alphabet (hword.plain x hx)
    refine ⟨by rwa [hbytes], fun value' hvalue' _ => ?_, fun hnone => absurd hword (hnone _ hvalue)⟩
    cases hvalue.symm.trans hvalue'
    exact ⟨hbytes, rfl⟩
  | none =>
    rw [hinbound] at hid
    cases hid
    obtain ⟨bs, hlength, hbs⟩ := hfresh w.minted
    have huuid : Correlation.IsUuid (env.fresh w.minted) := by
      rw [hbs]
      exact Correlation.isUuid_uuid hlength
    have hid := Correlation.isId_of_isUuid huuid
    refine ⟨Correlation.isWord_bytes hid, fun value hvalue hword => ?_,
      fun _ => ⟨rfl, huuid, rfl⟩⟩
    -- a word would have been accepted
    have haccept := Correlation.accept_eq_some.2 ⟨hword, rfl⟩
    rw [Correlation.inbound, hvalue, Option.bind_some, haccept] at hinbound
    cases hinbound

/-- The chosen id is never empty. -/
theorem Chooses.ne_empty (hc : Chooses env h w id w') : id ≠ "" := by
  rintro rfl
  exact absurd hc.word.nonempty (by decide)

/-! ## The id on the way in -/

/-- No other layer sets the id. -/
theorem Passes.correlationId_eq (h : Passes env layer r r') (hne : layer ≠ .correlationId) :
    r'.context.correlationId = r.context.correlationId := by
  -- attaching a principal and adding a tenant leave the id where it is
  cases h with
  | @authenticated layer r p hauth hp =>
    rw [Context.attach]
    cases r.context.principal with
    | some q => rfl
    | none => rfl
  | anonymous he => rfl
  | tenantKnown ht => rfl
  | tenantNamed hnone ht =>
    rw [Context.scopeTenant, hnone]
  | correlated id => exact absurd rfl hne
  | permitted hgate => rfl

/-- Layers keep the id of a request. -/
theorem PassesAll.correlationId_eq (h : PassesAll env layers r seen)
    (hfree : .correlationId ∉ layers) :
    seen.context.correlationId = r.context.correlationId := by
  induction h with
  | nil r => rfl
  | cons hstep hinner ih =>
    obtain ⟨hhead, htail⟩ := List.ne_and_not_mem_of_not_mem_cons hfree
    rw [ih htail, hstep.correlationId_eq (Ne.symm hhead)]

/-- A rejection is tagged with the id of the request that it ends. -/
theorem correlationId_of_enter_error (h : layer.enter env r w = (.error rejection, w')) :
    rejection.correlationId = r.context.correlationId := by
  obtain ⟨⟨r', hr, -⟩ | ⟨e, he⟩, -⟩ := enter_cases h
  · cases hr
  · cases he
    rfl

/-- Without a correlation layer a request keeps the id that it has. -/
theorem correlationId_of_enterAll_ok (h : enterAll env layers r w = (.ok seen, w'))
    (hfree : .correlationId ∉ layers) : seen.context.correlationId = r.context.correlationId :=
  (reaches_of_enterAll h).passesAll.correlationId_eq hfree

/-- Without a correlation layer a rejection is tagged with the id that the request has. -/
theorem correlationId_of_enterAll_error (h : enterAll env layers r w = (.error rejection, w'))
    (hfree : .correlationId ∉ layers) : rejection.correlationId = r.context.correlationId := by
  -- the layer that rejects finds the id that the request came with
  induction layers generalizing r w with
  | nil => cases h
  | cons layer inner ih =>
    obtain ⟨hhead, htail⟩ := List.ne_and_not_mem_of_not_mem_cons hfree
    rcases hstep : layer.enter env r w with ⟨result, w₁⟩
    cases result with
    | error rejection' =>
      rw [enterAll_of_error hstep] at h
      cases h
      exact correlationId_of_enter_error hstep
    | ok r₁ =>
      rw [enterAll_of_ok hstep] at h
      rw [ih h htail, (passes_of_enter hstep).correlationId_eq (Ne.symm hhead)]

/-! ## The id on the way out -/

/-- An id can be the value of a field. -/
theorem isValue_of_isWord {b : Bytes} (hb : Correlation.IsWord b) : Headers.isValue b = true := by
  have each : ∀ x ∈ Correlation.alphabet, (x = 0x09 || (0x20 ≤ x && x ≠ 0x7F)) = true := by
    decide +kernel
  exact List.all_eq_true.2 fun x hx => each x (hb.plain x hx)

/-- An answer always names an id that is a word, and no other. -/
theorem leave_correlationId (hid : r.context.correlationId = some id)
    (hword : Correlation.IsWord (Text.bytes id)) (answer : Response) :
    (leave .correlationId r answer).headers.filter (·.1 = Correlation.fieldName)
      = [(Correlation.fieldName, Text.bytes id)] := by
  unfold leave
  rw [hid]
  dsimp only
  rw [if_pos (isValue_of_isWord hword)]
  exact Headers.filter_set _ _ _

end Layer

end TenantAuth

import TenantAuth.Envelope.ErrorEnvelope
import TenantAuth.Proofs.Json.Records

/-!
# Reading back error envelopes

The text of an error envelope reads back as what is written of it (`ErrorEnvelope.reads_reader`):
its code, its message and its correlation id, unless that is empty.
-/
namespace TenantAuth

open Json (objectText memberTexts)
open Json.Reader

/-- What a reader of an envelope makes of its correlation id: it is given unless it is empty. -/
theorem folds_correlationMember {σ : Type} {member : σ → String → Json.Reader σ}
    (given : Option (Option String) → σ)
    (hmember : ∀ id, Reads (member (given none) "correlation_id") (0x3A :: Json.stringText id)
      (given (some (some id)))) (id : Option String) :
    Folds member (given none) (memberTexts (correlationMember id))
      (given ((id.filter fun id => !id.isEmpty).map some)) := by
  cases id with
  | none => exact .nil _
  | some id =>
    unfold correlationMember
    -- an empty id is not written, so there is no member to read
    by_cases hempty : id.isEmpty = true
    · simp only [hempty, if_true, Option.filter_some, Bool.not_true]
      exact .nil _
    · simp only [hempty, Bool.false_eq_true, if_false, Option.filter_some, Bool.not_false, if_true]
      exact .cons (hmember id) (.nil _)

/-- An id as a member of an envelope reads back. -/
theorem reads_correlationId (id : String) :
    Reads (once "correlation_id" none (optional string)) (0x3A :: Json.stringText id)
      (some (some id)) :=
  ((reads_string id).optional rfl rfl (by decide)).once "correlation_id"

/-- An error code reads back from its name. -/
theorem ErrorCode.reads_reader (code : ErrorCode) :
    Reads ErrorCode.reader (Json.stringText code.name) code := by
  have hknown : ∀ code : ErrorCode, (ErrorCode.all.map fun c => (c.name, c)).lookup code.name
      = some code := by
    intro code
    cases code <;> rfl
  exact reads_variant (hknown code)

namespace ErrorBody

/-- What went wrong reads back: the code and the words. -/
theorem reads_reader (b : ErrorBody) : Reads reader b.toJson.text b := by
  have htext : b.toJson.text = objectText [("code", Json.stringText b.code.name),
      ("message", Json.stringText b.message)] := by
    simp [toJson, Json.text, memberTexts]
  have hfolds : Folds Draft.member ⟨none, none⟩ [("code", Json.stringText b.code.name),
      ("message", Json.stringText b.message)] ⟨some b.code, some b.message⟩ := by
    refine .cons ((b.code.reads_reader.once "code").bind fun _ => rfl) ?_
    exact .cons (((reads_string b.message).once "message").bind fun _ => rfl) (.nil _)
  rw [htext]
  exact reads_record "struct ErrorBody" _ hfolds fun _ => rfl

end ErrorBody

namespace ErrorEnvelope

/-- What the text of an envelope says of it: no empty id. -/
def written (e : ErrorEnvelope) : ErrorEnvelope :=
  { e with correlationId := e.correlationId.filter fun id => !id.isEmpty }

/-- **An error envelope reads back.** -/
theorem reads_reader (e : ErrorEnvelope) : Reads reader e.toJson.text e.written := by
  have htext : e.toJson.text
      = objectText ([("success", Json.boolText e.success), ("error", e.error.toJson.text)]
        ++ memberTexts (correlationMember e.correlationId)) := by
    rw [toJson, Json.text, memberTexts_append]
    simp [memberTexts, Json.text]
  -- one step of the reader's fold for each member that is always written
  have hsuccess : Reads (Draft.member ⟨none, none, none⟩ "success")
      (0x3A :: Json.boolText e.success) ⟨some e.success, none, none⟩ :=
    ((reads_bool e.success).once "success").bind fun _ => rfl
  have herror : Reads (Draft.member ⟨some e.success, none, none⟩ "error")
      (0x3A :: e.error.toJson.text) ⟨some e.success, some e.error, none⟩ :=
    (e.error.reads_reader.once "error").bind fun _ => rfl
  -- the id is read last, if it is written
  have hid : Folds Draft.member ⟨some e.success, some e.error, none⟩
      (memberTexts (correlationMember e.correlationId))
      ⟨some e.success, some e.error, (e.correlationId.filter fun id => !id.isEmpty).map some⟩ :=
    folds_correlationMember (fun id => (⟨some e.success, some e.error, id⟩ : Draft))
      (fun id => (reads_correlationId id).bind fun _ => rfl) e.correlationId
  have hfolds := (Folds.cons hsuccess (.cons herror (.nil _))).append hid
  rw [htext]
  refine reads_record "struct ErrorEnvelope" _ hfolds fun c => ?_
  rw [written]
  cases e.correlationId.filter fun id => !id.isEmpty with
  | none => rfl
  | some id => rfl

end ErrorEnvelope

end TenantAuth

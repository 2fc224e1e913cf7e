import TenantAuth.Envelope.ApiResponse
import TenantAuth.Proofs.Envelope.ErrorEnvelope

/-!
# Reading back success envelopes

The text of an envelope reads back as what is written of it (`ApiResponse.reads_reader`), whatever
the data are, if only their own text reads back.
-/
namespace TenantAuth

open Json (objectText intText memberTexts)
open Json.Reader

namespace PageMeta

/-- A count of 64 bits reads back. -/
theorem reads_count (n : UInt64) : Reads count (intText n.toNat) n := by
  have hlt : n.toNat < 0x10000000000000000 := n.toNat_lt
  -- a count is in the range of the numbers that the reader of integers takes
  have hmin : int64Min ≤ (n.toNat : Int) := by
    unfold int64Min
    omega
  have hmax : (n.toNat : Int) ≤ uint64Max := by
    unfold uint64Max
    omega
  have hread : Reads uint64 (intText n.toNat) n.toNat :=
    reads_integer "u64" (by omega) hmax hmin hmax
  refine hread.bind fun c => ?_
  rw [Int.toNat_natCast, UInt64.ofNat_toNat]
  rfl

/-- The members of a page with the texts of their counts. -/
def countTexts (m : PageMeta) : List (String × Bytes) :=
  [("page", intText m.page.toNat), ("per_page", intText m.perPage.toNat),
    ("total", intText m.total.toNat), ("total_pages", intText m.totalPages.toNat)]

theorem text_toJson (m : PageMeta) : m.toJson.text = objectText m.countTexts := by
  simp [toJson, countJson, countTexts, Json.text, memberTexts]

/-- The counts of a page are read one after the other, each into its place. -/
theorem folds_member (m : PageMeta) :
    Folds Draft.member ⟨none, none, none, none⟩ m.countTexts
      ⟨some m.page, some m.perPage, some m.total, some m.totalPages⟩ := by
  refine .cons (((reads_count m.page).once "page").bind fun _ => rfl) ?_
  refine .cons (((reads_count m.perPage).once "per_page").bind fun _ => rfl) ?_
  refine .cons (((reads_count m.total).once "total").bind fun _ => rfl) ?_
  exact .cons (((reads_count m.totalPages).once "total_pages").bind fun _ => rfl) (.nil _)

/-- The counts of a page read back. -/
theorem reads_reader (m : PageMeta) : Reads reader m.toJson.text m := by
  rw [text_toJson]
  exact reads_record "struct PageMeta" _ m.folds_member fun _ => rfl

theorem reads_optional (m : PageMeta) : Reads (optional reader) m.toJson.text (some m) := by
  have hopen :
      m.toJson.text = 0x7B :: (Json.commaSeparated (m.countTexts.map memberText) ++ [0x7D]) :=
    m.text_toJson
  exact m.reads_reader.optional hopen rfl (by decide)

end PageMeta

namespace ApiResponse

variable {α : Type} {data : Json.Reader α} {dataJson : α → Json}

/-- What the text of an envelope says of it: not the status, and no empty id. -/
def written (r : ApiResponse α) : ApiResponse α :=
  { r with correlationId := r.correlationId.filter fun id => !id.isEmpty, status := none }

/-- The counts of a page, if there are any, are read among the members of an answer. -/
theorem folds_pageMember (success : Option Bool) (a : Option α) (page : Option PageMeta) :
    Folds (Draft.member data) ⟨success, a, none, none⟩ (memberTexts (pageMember page))
      ⟨success, a, page.map some, none⟩ := by
  cases page with
  | none => exact .nil _
  | some m => exact .cons ((m.reads_optional.once "meta").bind fun _ => rfl) (.nil _)

/-- **An envelope reads back,** but for its status, which is not in its text. -/
theorem reads_reader {r : ApiResponse α} (hdata : Reads data (dataJson r.data).text r.data) :
    Reads (reader data) (r.toJson dataJson).text r.written := by
  have htext : (r.toJson dataJson).text
      = objectText ([("success", Json.boolText r.success), ("data", (dataJson r.data).text)]
        ++ memberTexts (pageMember r.page) ++ memberTexts (correlationMember r.correlationId)) := by
    rw [toJson, Json.text, memberTexts_append, memberTexts_append]
    simp [memberTexts, Json.text]
  have hsuccess : Reads (Draft.member data ⟨none, none, none, none⟩ "success")
      (0x3A :: Json.boolText r.success) ⟨some r.success, none, none, none⟩ :=
    ((reads_bool r.success).once "success").bind fun _ => rfl
  have hdata' : Reads (Draft.member data ⟨some r.success, none, none, none⟩ "data")
      (0x3A :: (dataJson r.data).text) ⟨some r.success, some r.data, none, none⟩ :=
    (hdata.once "data").bind fun _ => rfl
  have hid : Folds (Draft.member data) ⟨some r.success, some r.data, r.page.map some, none⟩
      (memberTexts (correlationMember r.correlationId))
      ⟨some r.success, some r.data, r.page.map some,
        (r.correlationId.filter fun id => !id.isEmpty).map some⟩ :=
    folds_correlationMember
      (fun id => (⟨some r.success, some r.data, r.page.map some, id⟩ : Draft α))
      (fun id => (reads_correlationId id).bind fun _ => rfl) r.correlationId
  have hfolds := ((Folds.cons hsuccess (.cons hdata' (.nil _))).append
    (folds_pageMember _ _ r.page)).append hid
  rw [htext]
  -- a member that is left out reads as none, one that is there as what it says
  have hgiven : ∀ {β : Type} (o : Option β), (o.map some).getD none = o := by
    intro β o
    cases o with
    | none => rfl
    | some b => rfl
  refine reads_record "struct ApiResponse" _ hfolds fun c => ?_
  rw [hgiven, hgiven]
  rfl

end ApiResponse

end TenantAuth

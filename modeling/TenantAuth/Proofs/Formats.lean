import TenantAuth.Proofs.Identity.RoleSet
import TenantAuth.Proofs.Service.Refresh
import TenantAuth.Proofs.Settings.ReadBack

/-!
# Formats

How the values that are exchanged are written and read: the text of a value reads back as the value,
and the text of a value that was read from any other text is settled (`Canonical`). So it is with
the envelopes, pages, role sets, claims, granted tokens and settings (`formats_canonical`).
-/
namespace TenantAuth

open Json (Ascending)
open Json.Reader

/-! ## Canonical formats -/

section Canonical

variable {α : Type} {reader : Json.Reader α} {json : α → Json} {written : α → α}
  {Built Integral : α → Prop}

/-- Values are written in one way and read from many. `written` is what the text of a value says of
it. A value is `Built` if it is one that a program can hold, and `Integral` if the numbers of its
free-form data are integers. -/
structure Canonical (reader : Json.Reader α) (json : α → Json) (written : α → α)
    (Built Integral : α → Prop) : Prop where
  /-- The text of a value reads back, unless it nests deeper than the reader goes. -/
  reads_back : ∀ v, Built v → Integral v → (json v).nesting < maxDepth →
    whole reader (json v).text = .ok (written v)
  /-- From whatever text a value is read, its own text is accepted again and is written back byte
  for byte. -/
  settles : ∀ x v, whole reader x = .ok v → Integral v → Built v ∧
    ∃ w, whole reader (json v).text = .ok w ∧ (json w).text = (json v).text
  /-- Values with one text are the same in all that is written of them. -/
  tells_apart : ∀ v v', Built v → Integral v → (json v).nesting < maxDepth → Built v' →
    Integral v' → (json v').nesting < maxDepth → (json v).text = (json v').text →
    written v = written v'

/-- A format is canonical if the texts of all values read back that a reader can have made. -/
theorem Canonical.of_reads (Fits : α → Prop)
    (hreads : ∀ v, Fits v → Reads reader (json v).text (written v))
    (hfits : ∀ v, Built v → Integral v → (json v).nesting < maxDepth → Fits v)
    (hyields : Yields reader fun v => Built v ∧ (Integral v → Fits v))
    (hwritten : ∀ v, json (written v) = json v) : Canonical reader json written Built Integral where
  reads_back := fun v hbuilt hintegral hnesting =>
    (hreads v (hfits v hbuilt hintegral hnesting)).whole
  settles := by
    intro x v hx hintegral
    obtain ⟨hbuilt, hfits'⟩ := hyields.whole hx
    refine ⟨hbuilt, written v, (hreads v (hfits' hintegral)).whole, ?_⟩
    rw [hwritten]
  tells_apart := by
    intro v v' hbuilt hintegral hnesting hbuilt' hintegral' hnesting' htext
    -- one text cannot be read as two values
    have hread := (hreads v (hfits v hbuilt hintegral hnesting)).whole
    rw [htext, (hreads v' (hfits v' hbuilt' hintegral' hnesting')).whole] at hread
    exact (Except.ok.inj hread).symm

/-- Where the text of every value reads back, nothing has to be known of the values. -/
theorem Canonical.of_always (hreads : ∀ v, Reads reader (json v).text (written v))
    (hwritten : ∀ v, json (written v) = json v) :
    Canonical reader json written (fun _ => True) fun _ => True :=
  .of_reads (fun _ => True) (fun v _ => hreads v) (fun _ _ _ _ => trivial)
    (fun _ _ _ _ => ⟨trivial, fun _ => trivial⟩) hwritten

end Canonical

/-! ## Envelopes -/

/-- An empty id is written no more than none. -/
theorem correlationMember_filter (id : Option String) :
    correlationMember (id.filter fun id => !id.isEmpty) = correlationMember id := by
  cases id with
  | none => rfl
  | some id =>
    -- only an empty id is dropped by either, and both drop it
    cases hempty : id.isEmpty with
    | true =>
      rw [Option.filter_some, hempty, correlationMember, hempty]
      rfl
    | false =>
      rw [Option.filter_some, hempty]
      rfl

/-- An envelope and what its text says of it are written alike. -/
theorem ErrorEnvelope.toJson_written (e : ErrorEnvelope) : e.written.toJson = e.toJson := by
  rw [toJson, toJson, written, correlationMember_filter]

namespace ApiResponse

/-- An answer and what its text says of it are written alike. -/
theorem toJson_written {α : Type} (dataJson : α → Json) (r : ApiResponse α) :
    r.written.toJson dataJson = r.toJson dataJson := by
  rw [toJson, toJson, written, correlationMember_filter]

/-- The data of an envelope nest less deep than the envelope. -/
theorem nesting_data_lt (r : ApiResponse Json) : r.data.nesting < (r.toJson id).nesting := by
  have hdata : ("data", r.data) ∈ [("success", Json.bool r.success), ("data", id r.data)] ++
      pageMember r.page ++ correlationMember r.correlationId := by simp
  rw [toJson, Json.nesting]
  exact Nat.lt_succ_of_le (Json.membersNesting_le.1 (Nat.le_refl _) _ hdata)

/-- An answer whose data is in order reads back, but for its status and an empty id. -/
theorem reads_freeFormReader {r : ApiResponse Json} (hsorted : r.data.Sorted)
    (hintegral : r.data.Integral) (hnesting : r.data.nesting < maxDepth - 1) :
    Reads freeFormReader (r.toJson id).text r.written :=
  have hdata : Reads (value (126 + 1)) r.data.text r.data :=
    reads_value hsorted hintegral (Nat.le_of_lt_succ hnesting)
  reads_reader hdata

variable {data : Json.Reader Json} {P : Json → Prop}

/-- Whatever members are read, the data is what the reader of the data yields. -/
theorem yields_member (hdata : Yields data P) (d : Draft Json) (name : String)
    (hd : ∀ v ∈ d.data, P v) : Yields (d.member data name) fun d => ∀ v ∈ d.data, P v := by
  -- only the member `data` touches what is kept of the data
  unfold Draft.member
  split
  · exact .after fun _ => yields_pure hd
  · exact (hdata.once _ _).bind fun _ hv => yields_pure hv
  · exact .after fun _ => yields_pure hd
  · exact .after fun _ => yields_pure hd
  · exact .after fun _ => yields_pure hd

/-- What is known of the data that are read is known of the data of an envelope. -/
theorem yields_reader (hdata : Yields data P) : Yields (reader data) fun r => P r.data := by
  refine yields_record ?_ ?_
  · refine .after fun success => (hdata.item 1 _).bind fun v hv => ?_
    exact .after fun page => .after fun id => yields_pure hv
  · have hfields := yields_fields (yields_member hdata) (s := ⟨none, none, none, none⟩) nofun
    refine hfields.bind fun d hd => ?_
    exact .after fun success => (Yields.required hd _).bind fun v hv => yields_pure hv

/-- The envelope of answers is canonical for free-form data that is in order. -/
theorem canonical : Canonical freeFormReader (toJson id) written (fun r => r.data.Sorted)
    fun r => r.data.Integral := by
  refine .of_reads (fun r => (r.data.Sorted ∧ r.data.nesting < maxDepth - 1) ∧ r.data.Integral)
    (fun r h => reads_freeFormReader h.1.1 h.2 h.1.2) ?_ ?_ (toJson_written id)
  · intro r hsorted hintegral hnesting
    have hdata := r.nesting_data_lt
    exact ⟨⟨hsorted, by omega⟩, hintegral⟩
  · intro r c d h
    have hdata := yields_reader (yields_value (maxDepth - 1)) h
    exact ⟨hdata.1, fun hintegral => ⟨hdata, hintegral⟩⟩

end ApiResponse

/-! ## Role sets -/

/-- A role set reads back from the list of its members. -/
theorem RoleSet.reads_reader (roles : RoleSet) : Reads reader roles.toJson.text roles := by
  rw [toJson, Principal.textsJson, Json.text, itemTexts_map_str]
  refine (TokenClaims.reads_texts roles.toList).bind fun _ => ?_
  rw [ofList_toList]
  rfl

/-! ## All formats -/

/-- Settings are canonical, with their providers in the order of their names. -/
theorem Settings.canonical :
    Canonical Settings.reader Settings.toJson id (fun s => Ascending s.oauth) fun _ => True :=
  .of_reads (fun s => Ascending s.oauth) (fun _ h => Settings.reads_reader h) (fun _ h _ _ => h)
    (fun _ _ _ h => ⟨yields_reader h, fun _ => yields_reader h⟩) fun _ => rfl

/-- **Every format is canonical.** -/
theorem formats_canonical :
    Canonical ErrorEnvelope.reader ErrorEnvelope.toJson ErrorEnvelope.written (fun _ => True)
      (fun _ => True) ∧
    Canonical ApiResponse.freeFormReader (ApiResponse.toJson id) ApiResponse.written
      (fun r => r.data.Sorted) (fun r => r.data.Integral) ∧
    Canonical PageMeta.reader PageMeta.toJson id (fun _ => True) (fun _ => True) ∧
    Canonical RoleSet.reader RoleSet.toJson id (fun _ => True) (fun _ => True) ∧
    Canonical TokenClaims.reader TokenClaims.toJson id (fun _ => True) (fun _ => True) ∧
    Canonical AccessTokenResponse.reader AccessTokenResponse.toJson id (fun _ => True)
      (fun _ => True) ∧
    Canonical Settings.reader Settings.toJson id (fun s => Ascending s.oauth) fun _ => True :=
  ⟨.of_always ErrorEnvelope.reads_reader ErrorEnvelope.toJson_written, ApiResponse.canonical,
    .of_always PageMeta.reads_reader fun _ => rfl, .of_always RoleSet.reads_reader fun _ => rfl,
    .of_always TokenClaims.reads_reader fun _ => rfl,
    .of_always AccessTokenResponse.reads_reader fun _ => rfl, Settings.canonical⟩

section Sample

/-- Data whose strings, names among them, are full of signs that have to be escaped. -/
def trickyData : Json :=
  .obj [("\x00\"", .arr [.int (-5), .null, .str "\",\"error\":\x7b"]), ("id", .obj [])]

/-- An answer with the data, the empty id and a status. -/
def trickyAnswer : ApiResponse Json := ⟨true, trickyData, some ⟨1, 20, 41, 3⟩, some "", some 201⟩

theorem sorted_trickyData : trickyData.Sorted := by
  refine .obj ?_ (List.forall_mem_cons.2 ⟨.arr ?_, List.forall_mem_cons.2 ⟨.obj .nil nofun, nofun⟩⟩)
  · unfold Ascending
    decide
  · exact List.forall_mem_cons.2 ⟨.int _, List.forall_mem_cons.2 ⟨.null,
      List.forall_mem_cons.2 ⟨.str _, nofun⟩⟩⟩

theorem integral_trickyData : trickyData.Integral := by
  refine .obj (List.forall_mem_cons.2 ⟨.arr ?_, List.forall_mem_cons.2 ⟨.obj nofun, nofun⟩⟩)
  exact List.forall_mem_cons.2 ⟨.int (by decide) (by decide), List.forall_mem_cons.2 ⟨.null,
    List.forall_mem_cons.2 ⟨.str _, nofun⟩⟩⟩

/-- The answer reads back without its status and the empty id. A failure that is written as a list,
with blanks and an escape, is read, and its own text is settled. -/
theorem formats_canonical_tricky :
    whole ApiResponse.freeFormReader (trickyAnswer.toJson id).text =
      .ok { trickyAnswer with correlationId := none, status := none } ∧
    ∃ e, whole ErrorEnvelope.reader
        (Text.bytes "[ false,[\"NOT_FOUND\", \"\\u0022\"],\n\"\" ]") = .ok e ∧
      ∃ w, whole ErrorEnvelope.reader e.toJson.text = .ok w ∧ w.toJson.text = e.toJson.text := by
  obtain ⟨herror, hanswer, -⟩ := formats_canonical
  refine ⟨hanswer.reads_back trickyAnswer sorted_trickyData integral_trickyData (by decide), ?_⟩
  have hread : whole ErrorEnvelope.reader
      (Text.bytes "[ false,[\"NOT_FOUND\", \"\\u0022\"],\n\"\" ]")
        = .ok ⟨false, ⟨.notFound, "\""⟩, some ""⟩ := Outcome.toOption_eq_some.1 (by decide +kernel)
  exact ⟨_, hread, (herror.settles _ _ hread trivial).2⟩

end Sample

end TenantAuth

import TenantAuth.Envelope.ErrorEnvelope

/-!
# Success envelopes

The one shape in which every success is answered: the data, the place in a paginated list, and the
correlation id of the request where there is one. The status of the answer is not part of its text.
-/
namespace TenantAuth

/-- Where a page stands in a paginated list. -/
structure PageMeta where
  page : UInt64
  perPage : UInt64
  total : UInt64
  totalPages : UInt64
  deriving DecidableEq

namespace PageMeta

/-- The page of a list of `total` entries; a last page may be short, and pages of no entries make
no pages. -/
def ofTotal (page perPage total : UInt64) : PageMeta where
  page := page
  perPage := perPage
  total := total
  totalPages := if perPage = 0 then 0
    else UInt64.ofNat ((total.toNat + (perPage.toNat - 1)) / perPage.toNat)

/-- A count as a value. -/
def countJson (n : UInt64) : Json := .int n.toNat

/-- The page as a record. -/
def toJson (m : PageMeta) : Json :=
  .obj [("page", countJson m.page), ("per_page", countJson m.perPage),
    ("total", countJson m.total), ("total_pages", countJson m.totalPages)]

/-- The fields read so far. -/
structure Draft where
  page : Option UInt64
  perPage : Option UInt64
  total : Option UInt64
  totalPages : Option UInt64

open Json.Reader in
/-- Reads a count. -/
def count : Json.Reader UInt64 := do return UInt64.ofNat (← uint64).toNat

open Json.Reader in
/-- Reads one member. -/
def Draft.member (d : Draft) (name : String) : Json.Reader Draft :=
  match name with
  | "page" => do return { d with page := ← once name d.page count }
  | "per_page" => do return { d with perPage := ← once name d.perPage count }
  | "total" => do return { d with total := ← once name d.total count }
  | "total_pages" => do return { d with totalPages := ← once name d.totalPages count }
  | _ => do
    skipMember name
    return d

open Json.Reader in
/-- Reads a page from a record. -/
def reader : Json.Reader PageMeta :=
  let expected := "struct PageMeta with 4 elements"
  record "struct PageMeta"
    (do return {
          page := ← item 0 expected count
          perPage := ← item 1 expected count
          total := ← item 2 expected count
          totalPages := ← item 3 expected count })
    (do
      let d ← fields Draft.member ⟨none, none, none, none⟩
      return {
        page := ← required "page" d.page
        perPage := ← required "per_page" d.perPage
        total := ← required "total" d.total
        totalPages := ← required "total_pages" d.totalPages })

end PageMeta

/-- A success in its envelope. -/
structure ApiResponse (α : Type) where
  success : Bool
  data : α
  page : Option PageMeta
  correlationId : Option String
  /-- The status of the answer, 200 if none is set. -/
  status : Option Nat

namespace ApiResponse

/-- The answer with the data. -/
def ok (data : α) : ApiResponse α := ⟨true, data, none, none, none⟩

/-- The answer to a request that made something. -/
def created (data : α) : ApiResponse α := { ok data with status := some 201 }

/-- The answer with a page of a list. -/
def paginated (data : α) (page : PageMeta) : ApiResponse α := { ok data with page := some page }

/-- The answer with a correlation id. -/
def withCorrelationId (r : ApiResponse α) (id : Option String) : ApiResponse α :=
  { r with correlationId := id }

/-- The page as a member: nothing is written for none. -/
def pageMember : Option PageMeta → List (String × Json)
  | none => []
  | some m => [("meta", m.toJson)]

/-- The envelope as a record. -/
def toJson (dataJson : α → Json) (r : ApiResponse α) : Json :=
  .obj ([("success", .bool r.success), ("data", dataJson r.data)] ++ pageMember r.page ++
    correlationMember r.correlationId)

/-- The answer that carries the envelope. -/
def toResponse (dataJson : α → Json) (r : ApiResponse α) : Response :=
  .json (r.status.getD 200) (r.toJson dataJson).text

/-- The fields read so far. -/
structure Draft (α : Type) where
  success : Option Bool
  data : Option α
  page : Option (Option PageMeta)
  correlationId : Option (Option String)

open Json.Reader in
/-- Reads one member. -/
def Draft.member (data : Json.Reader α) (d : Draft α) (name : String) : Json.Reader (Draft α) :=
  match name with
  | "success" => do return { d with success := ← once name d.success bool }
  | "data" => do return { d with data := ← once name d.data data }
  | "meta" => do return { d with page := ← once name d.page (optional PageMeta.reader) }
  | "correlation_id" => do
    return { d with correlationId := ← once name d.correlationId (optional string) }
  | _ => do
    skipMember name
    return d

open Json.Reader in
/-- Reads an envelope from a record, its data with the given reader; no status is set. -/
def reader (data : Json.Reader α) : Json.Reader (ApiResponse α) :=
  let expected := "struct ApiResponse with 4 elements"
  record "struct ApiResponse"
    (do return {
          success := ← item 0 expected bool
          data := ← item 1 expected data
          page := ← itemOr 2 none (optional PageMeta.reader)
          correlationId := ← itemOr 3 none (optional string)
          status := none })
    (do
      let d ← fields (Draft.member data) ⟨none, none, none, none⟩
      return {
        success := ← required "success" d.success
        data := ← required "data" d.data
        page := d.page.getD none
        correlationId := d.correlationId.getD none
        status := none })

/-- Reads an envelope whose data are free-form. -/
def freeFormReader : Json.Reader (ApiResponse Json) :=
  reader (Json.Reader.value (Json.Reader.maxDepth - 1))

end ApiResponse

end TenantAuth

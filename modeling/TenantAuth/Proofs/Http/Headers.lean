import TenantAuth.Http.Message
import TenantAuth.Proofs.Text.Ascii

/-!
# Header fields

Fields of one name do not affect what a field of another name says, and a field that is set is the
only one of its name. A field value in words is made of visible ASCII characters.
-/
namespace TenantAuth.Headers

variable {h h₁ h₂ : Headers} {name other : String}

/-- The fields of any other name. -/
def without (h : Headers) (name : String) : Headers := h.filter (·.1 ≠ name)

/-- Fields of another name are found as before. -/
theorem first?_without (hne : other ≠ name) (h : Headers) :
    (h.without name).first? other = h.first? other := by
  induction h with
  | nil => rfl
  | cons field rest ih =>
    obtain ⟨key, value⟩ := field
    rw [without] at ih ⊢
    -- a field that is left out would not have been found
    by_cases hkey : key = name
    · have hother : (other == key) = false := by
        rw [hkey]
        exact beq_eq_false_iff_ne.2 hne
      rw [List.filter_cons_of_neg (by simp [hkey]), ih, first?, first?, List.lookup_cons, hother]
    · rw [List.filter_cons_of_pos (by simp [hkey]), first?, first?, List.lookup_cons,
        List.lookup_cons]
      cases other == key with
      | true => rfl
      | false => exact ih

/-- A field is the same in lists that differ in fields of another name only. -/
theorem first?_congr (h : h₁.without name = h₂.without name) (hne : other ≠ name) :
    h₁.first? other = h₂.first? other := by
  rw [← first?_without hne h₁, h, first?_without hne]

/-- A field that is set stands once, with the value that it is set to. -/
theorem filter_set (h : Headers) (name : String) (value : Bytes) :
    (h.set name value).filter (·.1 = name) = [(name, value)] := by
  have hothers : (h.filter (·.1 ≠ name)).filter (·.1 = name) = [] := by
    rw [List.filter_filter, List.filter_eq_nil_iff]
    intro field _
    simp
  rw [set, List.filter_append, hothers, List.nil_append, List.filter_cons_of_pos (by simp)]
  rfl

/-- A field that is set does not affect those of other names. -/
theorem filter_set_of_ne (hne : name ≠ other) (h : Headers) (value : Bytes) :
    (h.set name value).filter (·.1 = other) = h.filter (·.1 = other) := by
  rw [set, List.filter_append, List.filter_filter, List.filter_cons_of_neg (by simpa using hne),
    List.filter_nil, List.append_nil]
  refine List.filter_congr fun field _ => ?_
  by_cases hfield : field.1 = other
  · simp [hfield, Ne.symm hne]
  · simp [hfield]

/-! ## Visible characters -/

/-- The visible bytes are the printable ones of ASCII and the tab. -/
theorem isVisible_iff {x : UInt8} : isVisible x = true ↔ x = 0x09 ∨ 0x20 ≤ x ∧ x ≤ 0x7E := by
  rw [isVisible, Bool.or_eq_true, Bool.and_eq_true, decide_eq_true_eq, decide_eq_true_eq,
    decide_eq_true_eq]

theorem lt_of_isVisible {x : UInt8} (h : isVisible x = true) : x < 0x80 := by
  rcases isVisible_iff.1 h with rfl | ⟨-, h⟩
  · decide
  · exact UInt8.lt_of_le_of_lt h (by decide)

/-- Visible characters are what a field value in words is made of. -/
theorem visibleText?_bytes {b : Bytes} (h : ∀ x ∈ b, isVisible x = true) :
    visibleText? (Text.bytes (Text.ofAscii b)) = some (Text.ofAscii b) := by
  rw [Text.bytes_ofAscii fun x hx => lt_of_isVisible (h x hx), visibleText?,
    if_pos (List.all_eq_true.2 h)]

/-- A character is visible just when the byte that it is written as is. -/
theorem isVisible_iff_of_toNat_eq {c : Char} {x : UInt8} (h : c.toNat = x.toNat) :
    isVisible x = true ↔ c = '\t' ∨ ' ' ≤ c ∧ c ≤ '~' := by
  -- the order of characters is that of their codes
  have htab : x = 0x09 ↔ c = '\t' := by
    rw [← UInt8.toNat_inj, ← h, ← Char.toNat_inj]
    rfl
  have hlow : 0x20 ≤ x ↔ ' ' ≤ c := by
    rw [UInt8.le_iff_toNat_le, ← h, Text.le_iff_toNat_le]
    rfl
  have hhigh : x ≤ 0x7E ↔ c ≤ '~' := by
    rw [UInt8.le_iff_toNat_le, ← h, Text.le_iff_toNat_le]
    rfl
  rw [isVisible_iff, htab, hlow, hhigh]

/-- **A field value in words is a text of visible ASCII characters, spaces and tabs.** -/
theorem visibleText?_eq_some {value : Bytes} {s : String} :
    visibleText? value = some s ↔
      value = Text.bytes s ∧ ∀ c ∈ s.toList, c = '\t' ∨ ' ' ≤ c ∧ c ≤ '~' := by
  constructor
  · intro h
    unfold visibleText? at h
    split at h
    · next hall =>
      cases h
      have hvisible := List.all_eq_true.1 hall
      have hascii : ∀ x ∈ value, x < 0x80 := fun x hx => lt_of_isVisible (hvisible x hx)
      refine ⟨(Text.bytes_ofAscii hascii).symm, fun c hc => ?_⟩
      obtain ⟨x, hx, hcode⟩ := Text.mem_of_mem_toList_ofAscii hascii hc
      exact (isVisible_iff_of_toNat_eq hcode).1 (hvisible x hx)
    · cases h
  · rintro ⟨rfl, hchars⟩
    -- visible characters are ASCII, so the value has one byte for each of them
    have hascii : ∀ c ∈ s.toList, c.toNat < 0x80 := by
      intro c hc
      rcases hchars c hc with rfl | ⟨-, hhigh⟩
      · decide
      · exact Nat.lt_of_le_of_lt (Text.le_iff_toNat_le.1 hhigh) (by decide)
    have hvisible : ∀ x ∈ Text.codes s, isVisible x = true := by
      intro x hx
      obtain ⟨c, hc, rfl⟩ := List.mem_map.1 hx
      exact (isVisible_iff_of_toNat_eq (Text.toNat_code (hascii c hc)).symm).2 (hchars c hc)
    rw [← Text.ofAscii_codes hascii]
    exact visibleText?_bytes hvisible

end TenantAuth.Headers

namespace TenantAuth.Response

theorem status_setDefaultHeader (answer : Response) (name : String) (value : Bytes) :
    (answer.setDefaultHeader name value).status = answer.status := by
  unfold setDefaultHeader
  split <;> rfl

theorem body_setDefaultHeader (answer : Response) (name : String) (value : Bytes) :
    (answer.setDefaultHeader name value).body = answer.body := by
  unfold setDefaultHeader
  split <;> rfl

end TenantAuth.Response

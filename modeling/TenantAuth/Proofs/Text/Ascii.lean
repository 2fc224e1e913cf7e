import TenantAuth.Text.Utf8

/-!
# ASCII texts

`bytes_ofAscii`: ASCII bytes, read as a text, are the byte form of that text. `ofAscii_codes`: an
ASCII text is what the codes of its characters read as.
-/
namespace TenantAuth.Text

/-- What holds of every code holds of every byte. -/
theorem forall_byte {P : UInt8 → Prop} (h : ∀ n, n < 256 → P (UInt8.ofNat n)) (x : UInt8) :
    P x := by
  have hx := h x.toNat x.toNat_lt
  rwa [UInt8.ofNat_toNat] at hx

theorem forall_ascii {P : UInt8 → Prop} (h : ∀ n, n < 0x80 → P (UInt8.ofNat n)) {x : UInt8}
    (hx : x < 0x80) : P x := by
  have hx' := h x.toNat (UInt8.lt_iff_toNat_lt.1 hx)
  rwa [UInt8.ofNat_toNat] at hx'

/-- Characters are ordered by their codes. -/
theorem le_iff_toNat_le {c d : Char} : c ≤ d ↔ c.toNat ≤ d.toNat := UInt32.le_iff_toNat_le

/-- The byte form of a text is that of its characters, one after the other. -/
theorem bytes_ofList (cs : List Char) :
    bytes (String.ofList cs) = cs.flatMap String.utf8EncodeChar := by
  show cs.utf8Encode.data.toList = _
  rw [List.utf8Encode, List.data_toByteArray, List.toList_toArray]

/-- An ASCII byte is the byte form of its character. -/
theorem utf8EncodeChar_ofNat {b : UInt8} (h : b < 0x80) :
    String.utf8EncodeChar (Char.ofNat b.toNat) = [b] :=
  forall_ascii (P := fun x => String.utf8EncodeChar (Char.ofNat x.toNat) = [x]) (by decide) h

theorem bytes_ofAscii {b : Bytes} (h : ∀ x ∈ b, x < 0x80) : bytes (ofAscii b) = b := by
  rw [ofAscii, bytes_ofList]
  induction b with
  | nil => rfl
  | cons x rest ih =>
    rw [List.map_cons, List.flatMap_cons, utf8EncodeChar_ofNat (h x List.mem_cons_self),
      ih fun y hy => h y (List.mem_cons_of_mem x hy)]
    rfl

/-- An ASCII text has a character just when its bytes have that of the character. -/
theorem mem_of_mem_toList_ofAscii {b : Bytes} (h : ∀ x ∈ b, x < 0x80) {c : Char}
    (hc : c ∈ (ofAscii b).toList) : ∃ x ∈ b, c.toNat = x.toNat := by
  rw [ofAscii, String.toList_ofList] at hc
  obtain ⟨x, hx, rfl⟩ := List.mem_map.1 hc
  have each : ∀ n, n < 0x80 → (Char.ofNat n).toNat = n := by decide
  exact ⟨x, hx, each x.toNat (UInt8.lt_iff_toNat_lt.1 (h x hx))⟩

/-- The codes of the characters of a text, as bytes. -/
def codes (s : String) : Bytes := s.toList.map fun c => UInt8.ofNat c.toNat

theorem toNat_code {c : Char} (h : c.toNat < 0x80) : (UInt8.ofNat c.toNat).toNat = c.toNat :=
  UInt8.toNat_ofNat_of_lt' (Nat.lt_trans h (by decide))

theorem code_lt {c : Char} (h : c.toNat < 0x80) : UInt8.ofNat c.toNat < 0x80 := by
  rw [UInt8.lt_iff_toNat_lt, toNat_code h]
  exact h

theorem lt_of_mem_codes {s : String} (h : ∀ c ∈ s.toList, c.toNat < 0x80) :
    ∀ x ∈ codes s, x < 0x80 := by
  intro x hx
  obtain ⟨c, hc, rfl⟩ := List.mem_map.1 hx
  exact code_lt (h c hc)

theorem ofAscii_codes {s : String} (h : ∀ c ∈ s.toList, c.toNat < 0x80) :
    ofAscii (codes s) = s := by
  have hchars : (codes s).map (fun x => Char.ofNat x.toNat) = s.toList.map id := by
    rw [codes, List.map_map]
    refine List.map_congr_left fun c hc => ?_
    show Char.ofNat (UInt8.ofNat c.toNat).toNat = c
    rw [toNat_code (h c hc), Char.ofNat_toNat]
  rw [ofAscii, hchars, List.map_id, String.ofList_toList]

/-- The byte form of an ASCII text is made of the codes of its characters. -/
theorem bytes_eq_codes {s : String} (h : ∀ c ∈ s.toList, c.toNat < 0x80) : bytes s = codes s := by
  rw [← bytes_ofAscii (lt_of_mem_codes h), ofAscii_codes h]

end TenantAuth.Text

import TenantAuth.Gate.Correlation
import TenantAuth.Proofs.Http.Headers
import TenantAuth.Proofs.Text.Blank

/-!
# Which ids are accepted, and what a fresh one looks like

An inbound id is kept, without the spaces and tabs around it, just when what is left is a word of at
most 128 letters, digits and the four marks `-_.:` (`accept_eq_some`), whatever bytes the field may
hold. A fresh id is the text of a random UUID, and such a word as well.
-/
namespace TenantAuth.Correlation

/-! ## Words -/

/-- The characters of correlation ids. -/
def alphabet : Bytes :=
  Text.bytes "ABCDEFGHIJKLMNOPQRSTUVWXYZabcdefghijklmnopqrstuvwxyz0123456789-_.:"

/-- One to 128 characters of correlation ids. -/
structure IsWord (b : Bytes) : Prop where
  nonempty : 1 ≤ b.length
  short : b.length ≤ 128
  plain : ∀ x ∈ b, x ∈ alphabet

/-- The value of a field without the spaces and tabs at either end. -/
def strip (value : Bytes) : Bytes := Text.trimList (fun x => x = 0x20 || x = 0x09) value

/-- Over ASCII the characters of an id are those of the alphabet. -/
theorem isIdChar_iff {x : UInt8} (hx : x < 0x80) :
    isIdChar (Char.ofNat x.toNat) = true ↔ x ∈ alphabet := by
  have hcode : isIdChar (Char.ofNat x.toNat) = decide (x ∈ alphabet) :=
    Text.forall_ascii (P := fun y => isIdChar (Char.ofNat y.toNat) = decide (y ∈ alphabet))
      (by decide +kernel) hx
  rw [hcode, decide_eq_true_eq]

theorem lt_of_mem_alphabet {x : UInt8} (h : x ∈ alphabet) : x < 0x80 := by
  have each : ∀ y ∈ alphabet, y < 0x80 := by decide +kernel
  exact each x h

/-- The ids are the words, as texts. -/
theorem isId_ofAscii {b : Bytes} (hb : ∀ x ∈ b, x < 0x80) :
    isId (Text.ofAscii b) = true ↔ IsWord b := by
  -- of an ASCII text each of the three conditions can be asked of the bytes
  have hlength : (Text.ofAscii b).toList.length = b.length := by
    rw [Text.ofAscii, String.toList_ofList, List.length_map]
  have hempty : (Text.ofAscii b).isEmpty = false ↔ 1 ≤ b.length := by
    rw [← hlength, Bool.eq_false_iff, ne_eq, String.isEmpty_iff, ← String.toList_eq_nil_iff,
      ← ne_eq, ← List.length_pos_iff]
    exact Iff.rfl
  have hchars : (Text.ofAscii b).toList.all isIdChar = true ↔ ∀ x ∈ b, x ∈ alphabet := by
    rw [Text.ofAscii, String.toList_ofList, List.all_map, List.all_eq_true]
    constructor
    · intro h x hx
      exact (isIdChar_iff (hb x hx)).1 (h x hx)
    · intro h x hx
      exact (isIdChar_iff (hb x hx)).2 (h x hx)
  rw [isId, Bool.and_eq_true, Bool.and_eq_true, Bool.not_eq_true', decide_eq_true_eq, hempty,
    hchars, hlength]
  constructor
  · rintro ⟨⟨hnonempty, hshort⟩, hplain⟩
    exact ⟨hnonempty, hshort, hplain⟩
  · intro h
    exact ⟨⟨h.nonempty, h.short⟩, h.plain⟩

/-- Letters and digits stand below `z` and are ASCII. -/
theorem lt_of_isAlphanum {c : Char} (h : c.isAlphanum = true) : c.toNat < 0x80 := by
  have hbound : c.val ≤ 'z'.val := by
    rcases Bool.or_eq_true_iff.1 h with hletter | hdigit
    · rcases Bool.or_eq_true_iff.1 hletter with hupper | hlower
      · exact UInt32.le_trans (of_decide_eq_true hupper).2 (by decide)
      · exact of_decide_eq_true (Bool.and_eq_true_iff.1 hlower).2
    · exact UInt32.le_trans (of_decide_eq_true (Bool.and_eq_true_iff.1 hdigit).2) (by decide)
  exact Nat.lt_of_le_of_lt (Text.le_iff_toNat_le.1 hbound) (by decide)

/-- The characters of an id are ASCII. -/
theorem lt_of_isIdChar {c : Char} (h : isIdChar c = true) : c.toNat < 0x80 := by
  simp only [isIdChar, Bool.or_eq_true, decide_eq_true_eq] at h
  rcases h with (((h | rfl) | rfl) | rfl) | rfl
  · exact lt_of_isAlphanum h
  all_goals decide

/-- The bytes of an id are a word of the alphabet. -/
theorem isWord_bytes {s : String} (h : isId s = true) : IsWord (Text.bytes s) := by
  have hascii : ∀ c ∈ s.toList, c.toNat < 0x80 := by
    intro c hc
    rw [isId, Bool.and_eq_true] at h
    exact lt_of_isIdChar (List.all_eq_true.1 h.2 c hc)
  rw [Text.bytes_eq_codes hascii]
  rw [← Text.ofAscii_codes hascii] at h
  exact (isId_ofAscii (Text.lt_of_mem_codes hascii)).1 h

/-! ## Inbound ids -/

/-- Among the visible characters the space and the tab are the blanks. -/
theorem trim_ofAscii {value : Bytes} (h : ∀ x ∈ value, Headers.isVisible x = true) :
    Text.trim (Text.ofAscii value) = Text.ofAscii (strip value) := by
  have hblank : ∀ x ∈ value,
      (Text.isBlank ∘ fun y : UInt8 => Char.ofNat y.toNat) x = (x = 0x20 || x = 0x09) := by
    intro x hx
    exact Text.forall_ascii (P := fun y => Headers.isVisible y = true →
        Text.isBlank (Char.ofNat y.toNat) = (y = 0x20 || y = 0x09))
      (by decide +kernel) (Headers.lt_of_isVisible (h x hx)) (h x hx)
  rw [Text.trim, Text.ofAscii, String.toList_ofList, Text.trimList_map, Text.trimList_congr hblank]
  rfl

/-- **An id is kept just when it is a word** once the spaces and tabs around it are gone. -/
theorem accept_eq_some {value : Bytes} {id : String} :
    accept value = some id ↔ IsWord (strip value) ∧ Text.ofAscii (strip value) = id := by
  have hascii : (∀ x ∈ value, Headers.isVisible x = true) → ∀ x ∈ strip value, x < 0x80 :=
    fun h x hx => Headers.lt_of_isVisible (h x (Text.mem_of_mem_trimList hx))
  simp only [accept, Option.bind_eq_bind, Option.bind_eq_some_iff]
  constructor
  · rintro ⟨text, htext, h⟩
    rw [Headers.visibleText?] at htext
    split at htext
    · next hall =>
      have hvisible := List.all_eq_true.1 hall
      cases htext
      rw [trim_ofAscii hvisible] at h
      split at h
      · next hid =>
        cases h
        exact ⟨(isId_ofAscii (hascii hvisible)).1 hid, rfl⟩
      · cases h
    · cases htext
  · rintro ⟨hword, rfl⟩
    -- what stands around a word are spaces and tabs, so that the whole value is in words
    have hvisible : ∀ x ∈ value, Headers.isVisible x = true := by
      intro x hx
      rcases Text.mem_trimList_or hx with hx | hx
      · have each : ∀ y ∈ alphabet, Headers.isVisible y = true := by decide +kernel
        exact each x (hword.plain x hx)
      · rw [Bool.or_eq_true, decide_eq_true_eq, decide_eq_true_eq] at hx
        rcases hx with rfl | rfl
        · rfl
        · rfl
    refine ⟨_, if_pos (List.all_eq_true.2 hvisible), ?_⟩
    rw [trim_ofAscii hvisible, if_pos ((isId_ofAscii (hascii hvisible)).2 hword)]

/-! ## Fresh ids -/

/-- The lower-case hexadecimal digits. -/
def hexDigits : List Char := "0123456789abcdef".toList

/-- The text of a random UUID: groups of 8, 4, 4, 4 and 12 hexadecimal digits, of which one tells
the version and one the variant. -/
def IsUuid (s : String) : Prop :=
  ∃ (a b c d e : List Char) (variant : Char),
    s.toList = a ++ '-' :: b ++ '-' :: '4' :: c ++ '-' :: variant :: d ++ '-' :: e ∧
    a.length = 8 ∧ b.length = 4 ∧ c.length = 3 ∧ d.length = 3 ∧ e.length = 12 ∧
    variant ∈ ['8', '9', 'a', 'b'] ∧ ∀ x ∈ a ++ b ++ c ++ d ++ e, x ∈ hexDigits

/-- A byte is written as its two hexadecimal digits. -/
theorem hexPair_eq (x : UInt8) :
    hexPair x = [Nat.digitChar (x.toNat / 16), Nat.digitChar (x.toNat % 16)] := by
  have each : ∀ n, n < 256 → (Nat.toDigits 16 (256 + n)).drop 1
      = [Nat.digitChar (n / 16), Nat.digitChar (n % 16)] := by decide +kernel
  exact each x.toNat x.toNat_lt

theorem digitChar_mem {n : Nat} (h : n < 16) : Nat.digitChar n ∈ hexDigits := by
  have each : ∀ k, k < 16 → Nat.digitChar k ∈ hexDigits := by decide
  exact each n h

theorem digitChar_mod_mem (x : UInt8) : Nat.digitChar (x.toNat % 16) ∈ hexDigits :=
  digitChar_mem (Nat.mod_lt _ (by decide))

/-- Bytes are written as twice as many hexadecimal digits. -/
theorem flatMap_hexPair_digits (bs : Bytes) :
    (bs.flatMap hexPair).length = 2 * bs.length ∧ ∀ c ∈ bs.flatMap hexPair, c ∈ hexDigits := by
  -- every byte adds two digits
  induction bs with
  | nil => exact ⟨rfl, nofun⟩
  | cons x rest ih =>
    rw [List.flatMap_cons, hexPair_eq, List.length_append, ih.1, List.length_cons]
    refine ⟨by simp only [List.length_cons, List.length_nil]; omega, fun c hc => ?_⟩
    have hx := x.toNat_lt
    simp only [List.cons_append, List.nil_append, List.mem_cons] at hc
    rcases hc with rfl | rfl | hc
    · exact digitChar_mem (by omega)
    · exact digitChar_mod_mem x
    · exact ih.2 c hc

/-- The bits that mark the version make it the first digit of their byte. -/
theorem hexPair_version (x : UInt8) :
    ∃ c ∈ hexDigits, hexPair ((x &&& 0x0F) ||| 0x40) = ['4', c] := by
  have hhigh : ((x &&& 0x0F) ||| 0x40).toNat / 16 = 4 := by
    revert x
    exact Text.forall_byte (by decide +kernel)
  refine ⟨_, digitChar_mod_mem ((x &&& 0x0F) ||| 0x40), ?_⟩
  rw [hexPair_eq, hhigh]
  rfl

/-- The byte with the variant begins with one of four digits. -/
theorem hexPair_variant (x : UInt8) :
    ∃ variant ∈ ['8', '9', 'a', 'b'], ∃ c ∈ hexDigits,
      hexPair ((x &&& 0x3F) ||| 0x80) = [variant, c] := by
  have hhigh : Nat.digitChar (((x &&& 0x3F) ||| 0x80).toNat / 16) ∈ ['8', '9', 'a', 'b'] := by
    revert x
    exact Text.forall_byte (by decide +kernel)
  exact ⟨_, hhigh, _, digitChar_mod_mem _, hexPair_eq _⟩

/-- What is made of sixteen bytes has the form of a random UUID. -/
theorem isUuid_uuid {bs : Bytes} (h : bs.length = 16) : IsUuid (uuid bs) := by
  obtain ⟨c, hc, hversion⟩ := hexPair_version (bs.getD 6 0)
  obtain ⟨variant, hvariant, d, hd, hpair⟩ := hexPair_variant (bs.getD 8 0)
  -- two digits for each byte of a group
  have hlength : ∀ i n, i + n ≤ 16 → (((bs.drop i).take n).flatMap hexPair).length = 2 * n := by
    intro i n hin
    rw [(flatMap_hexPair_digits _).1, List.length_take, List.length_drop, h]
    omega
  have hhex : ∀ i n, ∀ x ∈ ((bs.drop i).take n).flatMap hexPair, x ∈ hexDigits := fun i n =>
    (flatMap_hexPair_digits _).2
  refine ⟨((bs.drop 0).take 4).flatMap hexPair, ((bs.drop 4).take 2).flatMap hexPair,
    c :: ((bs.drop 7).take 1).flatMap hexPair, d :: ((bs.drop 9).take 1).flatMap hexPair,
    ((bs.drop 10).take 6).flatMap hexPair, variant, ?_, hlength 0 4 (by decide),
    hlength 4 2 (by decide), ?_, ?_, hlength 10 6 (by decide), hvariant, ?_⟩
  · simp only [uuid, hversion, hpair, String.toList_ofList, List.append_assoc, List.cons_append,
      List.nil_append]
  · rw [List.length_cons, hlength 7 1 (by decide)]
  · rw [List.length_cons, hlength 9 1 (by decide)]
  · intro x hx
    simp only [List.mem_append, List.mem_cons] at hx
    -- each character is a digit of one of the groups, or one of the two that were put in
    rcases hx with (((hx | hx) | rfl | hx) | rfl | hx) | hx
    · exact hhex 0 4 x hx
    · exact hhex 4 2 x hx
    · exact hc
    · exact hhex 7 1 x hx
    · exact hd
    · exact hhex 9 1 x hx
    · exact hhex 10 6 x hx

/-- A random UUID would be accepted as the id of a request. -/
theorem isId_of_isUuid {s : String} (h : IsUuid s) : isId s = true := by
  obtain ⟨a, b, c, d, e, variant, hs, ha, hb, hc, hd, he, hvariant, hhex⟩ := h
  have hlength : s.toList.length = 36 := by
    simp only [hs, List.length_append, List.length_cons, ha, hb, hc, hd, he]
  have hchars : s.toList.all isIdChar = true := by
    have hdigit : hexDigits.all isIdChar = true := by decide
    have hmark : ['8', '9', 'a', 'b'].all isIdChar = true := by decide
    rw [List.all_eq_true]
    intro x hx
    -- a character of a UUID is a hyphen, one of the two marks, or a digit of a group
    have hcase : x = '-' ∨ x = '4' ∨ x = variant ∨ x ∈ a ++ b ++ c ++ d ++ e := by
      rw [hs] at hx
      simp only [List.mem_append, List.mem_cons] at hx ⊢
      grind
    rcases hcase with rfl | rfl | rfl | hx
    · rfl
    · rfl
    · exact List.all_eq_true.1 hmark x hvariant
    · exact List.all_eq_true.1 hdigit x (hhex x hx)
  have hempty : s.isEmpty = false := by
    rw [Bool.eq_false_iff, ne_eq, String.isEmpty_iff]
    rintro rfl
    cases hlength
  rw [isId, hempty, hlength, hchars]
  rfl

/-- Fresh ids are drawn from sixteen random bytes each. -/
theorem fresh_eq_uuid (seed : UInt64) (n : Nat) :
    ∃ bs : Bytes, bs.length = 16 ∧ fresh seed n = uuid bs := by
  -- as many numbers are drawn as are asked for
  have htake : ∀ (n : Nat) (source : RandomSource) (drawn : List UInt64),
      (RandomSource.take n source drawn).1.length = n + drawn.length := by
    intro n
    induction n with
    | zero =>
      intro source drawn
      rw [RandomSource.take, Nat.zero_add]
    | succ n ih =>
      intro source drawn
      rw [RandomSource.take, ih, List.length_cons]
      omega
  refine ⟨_, ?_, rfl⟩
  rw [RandomSource.bytes, List.length_map, htake]
  rfl

end TenantAuth.Correlation

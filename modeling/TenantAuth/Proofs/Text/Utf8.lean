import TenantAuth.Proofs.Text.Ascii

/-!
# Bytes that are texts

`IsText`: the byte form of some text. Such byte sequences may be put together (`IsText.append`), and
rewritten as long as only ASCII is and stays ASCII (`IsText.rewrite`).
-/
namespace TenantAuth.Text

variable {a b : Bytes}

theorem bytes_append (s t : String) : bytes (s ++ t) = bytes s ++ bytes t := by
  simp [bytes, String.toUTF8, String.toByteArray_append, ByteArray.data_append]

/-- All of the bytes are ASCII. -/
def Ascii (b : Bytes) : Prop := ∀ x ∈ b, x < 0x80

instance : Decidable (Ascii b) := List.decidableBAll (fun x => x < 0x80) b

theorem ascii_cons {x : UInt8} : Ascii (x :: b) ↔ x < 0x80 ∧ Ascii b := List.forall_mem_cons

theorem ascii_append : Ascii (a ++ b) ↔ Ascii a ∧ Ascii b := List.forall_mem_append

theorem ascii_replicate (n : Nat) {x : UInt8} (h : x < 0x80) : Ascii (List.replicate n x) := by
  intro y hy
  rw [List.eq_of_mem_replicate hy]
  exact h

/-- The bytes are the byte form of a text. -/
def IsText (b : Bytes) : Prop := ∃ s, b = bytes s

theorem isText_bytes (s : String) : IsText (bytes s) := ⟨s, rfl⟩

theorem IsText.bytes_getD (h : IsText b) : bytes ((ofBytes? b).getD "") = b := by
  obtain ⟨s, rfl⟩ := h
  rw [ofBytes?_bytes, Option.getD_some]

theorem IsText.append (ha : IsText a) (hb : IsText b) : IsText (a ++ b) := by
  obtain ⟨s, rfl⟩ := ha
  obtain ⟨t, rfl⟩ := hb
  exact ⟨s ++ t, (bytes_append s t).symm⟩

theorem isText_of_ascii (h : Ascii b) : IsText b := ⟨ofAscii b, (bytes_ofAscii h).symm⟩

theorem IsText.cons {x : UInt8} (hx : x < 0x80) (h : IsText b) : IsText (x :: b) := by
  have hhead : IsText [x] := isText_of_ascii (ascii_cons.2 ⟨hx, nofun⟩)
  exact hhead.append h

theorem isText_flatMap {α : Type} {f : α → Bytes} {as : List α} (h : ∀ a ∈ as, IsText (f a)) :
    IsText (as.flatMap f) := by
  induction as with
  | nil => exact isText_bytes ""
  | cons a rest ih =>
    have hrest := ih fun x hx => h x (List.mem_cons_of_mem a hx)
    exact (h a List.mem_cons_self).append hrest

/-- The byte form of a character beyond ASCII has no ASCII byte. -/
theorem le_of_mem_utf8EncodeChar {c : Char} (hc : 0x80 ≤ c.toNat) :
    ∀ x ∈ String.utf8EncodeChar c, 0x80 ≤ x := by
  have hv : ¬ c.val.toNat ≤ 0x7F := Nat.not_le.2 hc
  have hbyte : ∀ n, 0x80 ≤ n % 256 → (0x80 : UInt8) ≤ UInt8.ofNat n := by
    intro n hn
    rw [UInt8.le_iff_toNat_le, UInt8.toNat_ofNat']
    exact hn
  -- two, three or four bytes, each of them with the highest bit set
  intro x hx
  unfold String.utf8EncodeChar at hx
  dsimp only at hx
  rw [if_neg hv] at hx
  split at hx
  · simp only [List.mem_cons, List.not_mem_nil, or_false] at hx
    rcases hx with rfl | rfl
    all_goals exact hbyte _ (by omega)
  · split at hx
    · simp only [List.mem_cons, List.not_mem_nil, or_false] at hx
      rcases hx with rfl | rfl | rfl
      all_goals exact hbyte _ (by omega)
    · simp only [List.mem_cons, List.not_mem_nil, or_false] at hx
      rcases hx with rfl | rfl | rfl | rfl
      all_goals exact hbyte _ (by omega)

/-- The byte form of an ASCII character is its code. -/
theorem utf8EncodeChar_of_lt {c : Char} (hc : c.toNat < 0x80) :
    String.utf8EncodeChar c = [UInt8.ofNat c.toNat] := by
  rw [← utf8EncodeChar_ofNat (code_lt hc), toNat_code hc, Char.ofNat_toNat]

/-- There is a zero byte in the byte form of no character but the zero character. -/
theorem ne_zero_of_mem_utf8EncodeChar {c : Char} (hc : c ≠ '\x00') :
    ∀ x ∈ String.utf8EncodeChar c, x ≠ 0 := by
  intro x hx
  rcases Nat.lt_or_ge c.toNat 0x80 with hlt | hge
  · rw [utf8EncodeChar_of_lt hlt] at hx
    rintro rfl
    have hzero : (UInt8.ofNat c.toNat).toNat = 0 := by
      rw [← List.mem_singleton.1 hx]
      rfl
    rw [toNat_code hlt] at hzero
    exact hc (Char.toNat_inj.1 hzero)
  · rintro rfl
    exact absurd (le_of_mem_utf8EncodeChar hge 0 hx) (by decide)

/-- A text that does not begin with the zero character does not begin with a zero byte. -/
theorem exists_bytes_eq_cons {s : String} (hs : s ≠ "") (hfirst : s.toList.head? ≠ some '\x00') :
    ∃ x rest, bytes s = x :: rest ∧ x ≠ 0 := by
  rw [← String.ofList_toList (s := s), bytes_ofList]
  -- the first byte of a text is that of its first character
  cases hcs : s.toList with
  | nil => exact absurd (String.toList_injective hcs) hs
  | cons c cs =>
    rw [hcs, List.head?_cons] at hfirst
    have hc : c ≠ '\x00' := fun h => hfirst (congrArg some h)
    obtain ⟨x, more, hx⟩ := List.exists_cons_of_ne_nil (String.utf8EncodeChar_ne_nil (c := c))
    refine ⟨x, more ++ cs.flatMap String.utf8EncodeChar, ?_, ?_⟩
    · rw [List.flatMap_cons, hx, List.cons_append]
    · refine ne_zero_of_mem_utf8EncodeChar hc x ?_
      rw [hx]
      exact List.mem_cons_self

/-- A text stays one when its ASCII bytes are rewritten as ASCII. -/
theorem IsText.rewrite {f : UInt8 → Bytes} (hascii : ∀ x, x < 0x80 → Ascii (f x))
    (hother : ∀ x, 0x80 ≤ x → f x = [x]) (h : IsText b) : IsText (b.flatMap f) := by
  obtain ⟨s, rfl⟩ := h
  rw [← String.ofList_toList (s := s), bytes_ofList, List.flatMap_assoc]
  -- character by character, since the bytes of a character beyond ASCII are no texts of their own
  refine isText_flatMap fun c _ => ?_
  rcases Nat.lt_or_ge c.toNat 0x80 with hc | hc
  · rw [utf8EncodeChar_of_lt hc, List.flatMap_singleton]
    exact isText_of_ascii (hascii _ (code_lt hc))
  · have hsame : (String.utf8EncodeChar c).map f = (String.utf8EncodeChar c).map fun x => [x] :=
      List.map_congr_left fun x hx => hother x (le_of_mem_utf8EncodeChar hc x hx)
    have hkept : (String.utf8EncodeChar c).flatMap f = bytes (String.ofList [c]) := by
      rw [bytes_ofList, List.flatMap_singleton, List.flatMap_def, hsame, ← List.flatMap_def,
        List.flatMap_singleton']
    rw [hkept]
    exact isText_bytes _

end TenantAuth.Text

import TenantAuth.Password.Hash
import TenantAuth.Proofs.Base64
import TenantAuth.Proofs.Text.Utf8

/-!
# Stored hashes read back

`parse_text`: a stored hash that is written is read as what it was. A hash can be written if it is
well formed: its cost fits into two digits, and salt and digest are texts of 22 and 31 symbols over
the alphabet of password hashes, so that neither holds the sign that stands between the parts.
-/
namespace TenantAuth

/-! ## Decimal numerals -/

namespace Text.Decimal

/-- A run of digits is read as the number that it stands for, if that lies within the bounds. -/
theorem parse?_of_digits {s : String} {ds : Bytes} {lo hi : Int} (hbytes : Text.bytes s = ds)
    (hne : ds ≠ []) (hds : ∀ d ∈ ds, isDigit d = true)
    (hbounds : lo ≤ toNat ds ∧ (toNat ds : Int) ≤ hi) :
    parse? lo hi s = some (toNat ds : Int) := by
  obtain ⟨d, rest, rfl⟩ := List.exists_cons_of_ne_nil hne
  have hd : isDigit d = true := hds d List.mem_cons_self
  -- the first digit is no sign
  have hplus : d ≠ 0x2B := by
    rintro rfl
    exact absurd hd (by decide)
  have hminus : d ≠ 0x2D := by
    rintro rfl
    exact absurd hd (by decide)
  have hall : (d :: rest).all isDigit = true := List.all_eq_true.2 hds
  simp [parse?, hbytes, hplus, hminus, hall, hbounds]

theorem length_ofNat_of_lt_ten {n : Nat} (h : n < 10) : (ofNat n).length = 1 := by
  rw [ofNat, if_pos h]
  rfl

theorem length_ofNat_of_lt_hundred {n : Nat} (hlow : ¬ n < 10) (hhigh : n < 100) :
    (ofNat n).length = 2 := by
  rw [ofNat, if_neg hlow, List.length_append, length_ofNat_of_lt_ten (by omega)]
  rfl

end Text.Decimal

namespace StoredHash

open Text.Decimal (isDigit)

variable {h : StoredHash} {cost : Nat}

/-! ## The cost -/

/-- The cost is written in digits. -/
theorem isDigit_of_mem_costText {d : UInt8} (hd : d ∈ costText cost) : isDigit d = true := by
  rw [costText] at hd
  split at hd
  · rcases List.mem_cons.1 hd with rfl | hd
    · decide
    · exact Text.Decimal.isDigit_of_mem_ofNat hd
  · exact Text.Decimal.isDigit_of_mem_ofNat hd

/-- A cost takes two digits. -/
theorem length_costText (hcost : cost < 100) : (costText cost).length = 2 := by
  rw [costText]
  split
  · next hlow => rw [List.length_cons, Text.Decimal.length_ofNat_of_lt_ten hlow]
  · next hlow => exact Text.Decimal.length_ofNat_of_lt_hundred hlow hcost

/-- A zero in front does not change a numeral. -/
theorem toNat_costText (cost : Nat) : Text.Decimal.toNat (costText cost) = cost := by
  have hzero : ∀ ds, Text.Decimal.toNat (0x30 :: ds) = Text.Decimal.toNat ds := fun _ => rfl
  rw [costText]
  split
  · rw [hzero, Text.Decimal.toNat_ofNat]
  · exact Text.Decimal.toNat_ofNat cost

/-- No dollar sign is among them. -/
theorem dollar_not_mem_costText : dollar ∉ costText cost := fun hmem =>
  absurd (isDigit_of_mem_costText hmem) (by decide)

theorem costText_ne_nil (hcost : cost < 100) : costText cost ≠ [] := by
  intro hnil
  have hlength := length_costText hcost
  rw [hnil] at hlength
  cases hlength

/-! ## Whole hashes -/

/-- The hash has the form in which hashes are stored. -/
structure WellFormed (h : StoredHash) : Prop where
  cost_lt : h.cost < 100
  salt_over : Base64.crypt.Over h.salt
  salt_length : h.salt.length = 22
  digest_over : Base64.crypt.Over h.digest
  digest_length : h.digest.length = 31

/-- The salt and the digest, which are stored without anything between them. -/
theorem WellFormed.over (hwf : h.WellFormed) : Base64.crypt.Over (h.salt ++ h.digest) := by
  intro s hs
  rcases List.mem_append.1 hs with hs | hs
  · exact hwf.salt_over s hs
  · exact hwf.digest_over s hs

/-- The bytes of a stored hash, in parts that are each followed by a dollar sign but for the
last. -/
theorem WellFormed.bytes_text (hwf : h.WellFormed) :
    Text.bytes h.text = [] ++ dollar :: ([0x32, 0x62] ++ dollar ::
      (costText h.cost ++ dollar :: (h.salt ++ h.digest))) := by
  have hcost : Text.Ascii (costText h.cost) := fun d hd =>
    Text.Decimal.lt_of_isDigit (isDigit_of_mem_costText hd)
  have hascii : Text.Ascii ([dollar, 0x32, 0x62, dollar] ++ costText h.cost ++ dollar :: h.salt
      ++ h.digest) := by
    rw [Text.ascii_append, Text.ascii_append, Text.ascii_append]
    exact ⟨⟨⟨by decide, hcost⟩, Text.ascii_cons.2 ⟨by decide, hwf.salt_over.crypt_lt⟩⟩,
      hwf.digest_over.crypt_lt⟩
  rw [text, Text.bytes_ofAscii hascii]
  simp

/-- A well formed hash is written in sixty bytes. -/
theorem WellFormed.length_text (hwf : h.WellFormed) : h.text.length = 60 := by
  rw [text, Text.ofAscii, String.length_ofList]
  simp [length_costText hwf.cost_lt, hwf.salt_length, hwf.digest_length]

/-- Between the dollar signs of a written hash stand its version, its cost, and its salt and
digest. -/
theorem WellFormed.splitOn_text (hwf : h.WellFormed) :
    (Text.bytes h.text).splitOn dollar =
      [[], [0x32, 0x62], costText h.cost, h.salt ++ h.digest] := by
  have hrest : dollar ∉ h.salt ++ h.digest := hwf.over.dollar_not_mem
  -- none of the parts has a dollar sign, so the text is split at those between them
  rw [hwf.bytes_text, List.splitOn_append_cons_self_of_not_mem List.not_mem_nil,
    List.splitOn_append_cons_self_of_not_mem (by decide),
    List.splitOn_append_cons_self_of_not_mem dollar_not_mem_costText,
    List.splitOn_eq_singleton hrest]

/-- The digest begins where the salt ends, with a byte that is a character of its own. -/
theorem WellFormed.startsChar_digest (hwf : h.WellFormed) :
    startsChar ((h.salt ++ h.digest).getD 22 0) = true := by
  have hlength : 22 < (h.salt ++ h.digest).length := by
    rw [List.length_append, hwf.salt_length, hwf.digest_length]
    decide
  rw [List.getD_eq_getElem?_getD, List.getElem?_eq_getElem hlength, Option.getD_some]
  have hascii := hwf.over.crypt_lt _ (List.getElem_mem hlength)
  rw [startsChar, decide_eq_true hascii, Bool.true_or]

/-- **A stored hash that is written reads back.** -/
theorem WellFormed.parse_text (hwf : h.WellFormed) : parse h.text = .ok h := by
  -- the empty part before the first dollar sign is left out
  have hparts : ((Text.bytes h.text).splitOn dollar).filter (· ≠ []) =
      [[0x32, 0x62], costText h.cost, h.salt ++ h.digest] := by
    have hrest : h.salt ++ h.digest ≠ [] := by
      intro hnil
      have hlength := congrArg List.length hnil
      rw [List.length_append, hwf.salt_length, hwf.digest_length] at hlength
      exact absurd hlength (by decide)
    rw [hwf.splitOn_text]
    simp [costText_ne_nil hwf.cost_lt, hrest]
  -- the cost is a numeral that may have a zero in front
  have hcost : Text.Decimal.parse? 0 0xFFFFFFFF ((Text.ofBytes? (costText h.cost)).getD "")
      = some (h.cost : Int) := by
    have htext : Text.IsText (costText h.cost) := Text.isText_of_ascii fun d hd =>
      Text.Decimal.lt_of_isDigit (isDigit_of_mem_costText hd)
    have hbounds : (0 : Int) ≤ Text.Decimal.toNat (costText h.cost) ∧
        (Text.Decimal.toNat (costText h.cost) : Int) ≤ 0xFFFFFFFF := by
      have hcost := hwf.cost_lt
      rw [toNat_costText]
      omega
    rw [Text.Decimal.parse?_of_digits htext.bytes_getD (costText_ne_nil hwf.cost_lt)
      (fun _ => isDigit_of_mem_costText) hbounds, toNat_costText]
  -- the rest is cut after the 22 symbols of the salt
  have hrest : (h.salt ++ h.digest).length = 53 ∧
      startsChar ((h.salt ++ h.digest).getD 22 0) = true := by
    rw [List.length_append, hwf.salt_length, hwf.digest_length]
    exact ⟨rfl, hwf.startsChar_digest⟩
  have hvariant : ¬ ([0x32, 0x62] : Bytes) ∉ variants := by decide
  have htake : (h.salt ++ h.digest).take 22 = h.salt := List.take_left' hwf.salt_length
  have hdrop : (h.salt ++ h.digest).drop 22 = h.digest := List.drop_left' hwf.salt_length
  simp only [parse, hparts, if_neg hvariant, hcost, if_pos hrest, htake, hdrop, Int.toNat_natCast]

end StoredHash

end TenantAuth

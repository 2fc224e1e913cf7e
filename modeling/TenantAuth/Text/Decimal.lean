import TenantAuth.Text.Utf8

/-!
# Decimal numerals

Integers as ASCII digits. `ofNat` writes the shortest numeral and `toNat` reads any run of digits:
`toNat_ofNat` says that reading gives the number back.
-/
namespace TenantAuth.Text.Decimal

/-- An ASCII digit. -/
def isDigit (b : UInt8) : Bool := 0x30 ≤ b && b ≤ 0x39

theorem lt_of_isDigit {d : UInt8} (h : isDigit d = true) : d < 0x80 := by
  rw [isDigit, Bool.and_eq_true, decide_eq_true_eq, decide_eq_true_eq] at h
  exact UInt8.lt_of_le_of_lt h.2 (by decide)

/-- The digit for `n < 10`. -/
def digit (n : Nat) : UInt8 := UInt8.ofNat (0x30 + n)

/-- The decimal numeral of `n`, without leading zeros. -/
def ofNat (n : Nat) : Bytes :=
  if n < 10 then [digit n] else ofNat (n / 10) ++ [digit (n % 10)]
  termination_by n

/-- The decimal numeral of `n`, with a minus sign if it is negative. -/
def ofInt : Int → Bytes
  | .ofNat n => ofNat n
  | .negSucc n => 0x2D :: ofNat (n + 1)

/-- The number that a run of digits stands for. -/
def toNat (ds : Bytes) : Nat := ds.foldl (fun n d => n * 10 + (d.toNat - 0x30)) 0

theorem toNat_digit {n : Nat} (h : n < 10) : (digit n).toNat - 0x30 = n := by
  have : (0x30 + n) % 256 = 0x30 + n := Nat.mod_eq_of_lt (by omega)
  simp [digit, UInt8.toNat_ofNat', this]

theorem toNat_ofNat (n : Nat) : toNat (ofNat n) = n := by
  fun_induction ofNat n with
  | case1 n h => simp [toNat, toNat_digit h]
  | case2 n h ih =>
    have r : n % 10 < 10 := Nat.mod_lt _ (by decide)
    simp only [toNat, List.foldl_append, List.foldl_cons, List.foldl_nil, toNat_digit r] at ih ⊢
    omega

/-- Every digit of a numeral is a digit. -/
theorem isDigit_of_mem_ofNat {n : Nat} {b : UInt8} (h : b ∈ ofNat n) : isDigit b := by
  have each : ∀ k, k < 10 → isDigit (digit k) := by decide
  fun_induction ofNat n with
  | case1 n k => rw [List.mem_singleton.1 h]; exact each n k
  | case2 n _ ih =>
    rcases List.mem_append.1 h with h | h
    · exact ih h
    · rw [List.mem_singleton.1 h]; exact each _ (Nat.mod_lt _ (by decide))

/--
The integer in `lo ≤ i ≤ hi` that `s` is the numeral of: an optional sign (a minus sign only if
`lo` is negative) and one or more digits.
-/
def parse? (lo hi : Int) (s : String) : Option Int :=
  let b := Text.bytes s
  let (negative, ds) := match b with
    | 0x2B :: r => (false, r)
    | 0x2D :: r => if lo < 0 then (true, r) else (false, b)
    | _ => (false, b)
  if ds.isEmpty || !ds.all isDigit then none
  else
    let i : Int := if negative then -(toNat ds : Int) else toNat ds
    if lo ≤ i ∧ i ≤ hi then some i else none

end TenantAuth.Text.Decimal

namespace TenantAuth

/-- The least 64-bit signed integer. -/
def int64Min : Int := -0x8000000000000000

/-- The greatest 64-bit signed integer. -/
def int64Max : Int := 0x7FFFFFFFFFFFFFFF

/-- The greatest 64-bit unsigned integer. -/
def uint64Max : Int := 0xFFFFFFFFFFFFFFFF

/-- The number lies in the range of 64-bit signed integers. -/
def IsInt64 (i : Int) : Prop := int64Min ≤ i ∧ i ≤ int64Max

instance (i : Int) : Decidable (IsInt64 i) := inferInstanceAs (Decidable (_ ∧ _))

end TenantAuth

import TenantAuth.Regex.CharSet

/-!
# Room

How many bytes the states of an expression take when it is laid out for searching bytes: 32 for each
state, and more for the ways out of one. A class beyond ASCII is laid out as the tree of the UTF-8
forms of its ranges.
-/
namespace TenantAuth.CharSet

/-- The bounds of the numbers that one, two and three bytes can hold. -/
def formBounds : List Nat := [0x7F, 0x7FF, 0xFFFF]

/-- The bytes of a number of `count` bytes. -/
def formBytes (count n : Nat) : List Nat :=
  let tail (k : Nat) : Nat := 0x80 + n / Nat.pow 64 k % 64
  match count with
  | 1 => [n]
  | 2 => [0xC0 + n / 64, tail 0]
  | 3 => [0xE0 + n / 4096, tail 1, tail 0]
  | _ => [0xF0 + n / 262144, tail 2, tail 1, tail 0]

/-- How many bytes a number takes. -/
def formLength (n : Nat) : Nat := 1 + (formBounds.filter (· < n)).length

/-- Where a range has to be cut for its bytes to vary on their own: the last number of the first
part. -/
def cutAt? (lo hi : Nat) : Option Nat :=
  if lo < 0xE000 && 0xD7FF < hi then some (if lo ≤ 0xD7FF then 0xD7FF else 0xDFFF)
  else
    match formBounds.find? fun m => lo ≤ m && m < hi with
    | some m => some m
    | none =>
      if hi ≤ 0x7F then none
      else
        [64, 4096, 262144].findSome? fun m =>
          if lo / m = hi / m then none
          else if lo % m ≠ 0 then some (lo / m * m + m - 1)
          else if hi % m ≠ m - 1 then some (hi / m * m - 1)
          else none

/-- The parts of a range whose bytes vary on their own, as the ranges of each byte. -/
def forms : Nat → Nat → Nat → List (List (Nat × Nat))
  | 0, _, _ => []
  | fuel + 1, lo, hi =>
    if 0xD800 ≤ lo && hi ≤ 0xDFFF then []
    else
      match cutAt? lo hi with
      | some m => forms fuel lo m ++ forms fuel (m + 1) hi
      | none =>
        let count := formLength lo
        [(formBytes count lo).zip (formBytes count hi)]

/-- How many lists begin otherwise than the one before them, at each length: the nodes of their
tree. -/
def treeSize [BEq α] (before : List α) : List (List α) → Nat
  | [] => 0
  | f :: rest =>
    let shared := ((before.zip f).takeWhile fun p => p.1 == p.2).length
    (f.length - shared) + treeSize f rest

/-- The room that a class takes. -/
def room (s : CharSet) : Nat :=
  match s.ranges with
  | [(a, b)] => if a = b then 32 * formLength a else general
  | _ => general
where
  general : Nat :=
    if s.isAscii then 64 + 8 * s.ranges.length
    else
      let fs := s.ranges.flatMap fun r => forms 64 r.1 r.2
      32 * (treeSize [] fs + 2) + 4 * fs.length

end TenantAuth.CharSet

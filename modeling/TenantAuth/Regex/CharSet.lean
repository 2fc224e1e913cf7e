import TenantAuth.Regex.Unicode.Folding

/-!
# Sets of characters

A set of characters is a list of ranges of their numbers, ascending and with gaps between any two;
`CharSet.ofRanges` puts ranges into that form, and the operations on sets keep it.
-/
namespace TenantAuth

/-- A set of characters, by the first and the last number of each range. -/
structure CharSet where
  ranges : List (Nat × Nat)
  deriving DecidableEq

namespace CharSet

/-- The greatest number of a character. -/
def lastNumber : Nat := 0x10FFFF

/-- The character is in the set. -/
def contains (s : CharSet) (c : Char) : Bool :=
  s.ranges.any fun r => r.1 ≤ c.toNat && c.toNat ≤ r.2

/-- A range and the ranges after it, in ascending order of their first numbers, with those that
touch put together. -/
def joined (r : Nat × Nat) : List (Nat × Nat) → List (Nat × Nat)
  | [] => [r]
  | s :: rest => if s.1 ≤ r.2 + 1 then joined (r.1, max r.2 s.2) rest else r :: joined s rest

/-- The set of the characters in some ranges. -/
def ofRanges (rs : List (Nat × Nat)) : CharSet :=
  match rs.mergeSort fun a b => a.1 ≤ b.1 with
  | [] => ⟨[]⟩
  | r :: rest => ⟨joined r rest⟩

/-- The set without a character. -/
def empty : CharSet := ⟨[]⟩

/-- The set of all characters. -/
def all : CharSet := ⟨[(0, lastNumber)]⟩

/-- The set of one character. -/
def single (c : Char) : CharSet := ⟨[(c.toNat, c.toNat)]⟩

/-- The ASCII characters. -/
def ascii : CharSet := ⟨[(0, 0x7F)]⟩

/-- The characters of one set or the other. -/
def union (s t : CharSet) : CharSet := ofRanges (s.ranges ++ t.ranges)

/-- The characters of any of some sets. -/
def unions (ss : List CharSet) : CharSet := ofRanges (ss.flatMap ranges)

/-- The gaps between ranges from `start` on. -/
def gaps (start : Nat) : List (Nat × Nat) → List (Nat × Nat)
  | [] => if start ≤ lastNumber then [(start, lastNumber)] else []
  | r :: rs => if start < r.1 then (start, r.1 - 1) :: gaps (r.2 + 1) rs else gaps (r.2 + 1) rs

/-- The characters that are not in the set. -/
def compl (s : CharSet) : CharSet := ⟨gaps 0 s.ranges⟩

/-- The characters of both sets. -/
def inter (s t : CharSet) : CharSet := (s.compl.union t.compl).compl

/-- The characters of the first set only. -/
def diff (s t : CharSet) : CharSet := s.inter t.compl

/-- The characters of exactly one of the sets. -/
def symmDiff (s t : CharSet) : CharSet := (s.diff t).union (t.diff s)

/-- The set holds ASCII characters only. -/
def isAscii (s : CharSet) : Bool := s.ranges.all (·.2 < 0x80)

/-! ## Ranges in words -/

/-- The number of a hexadecimal numeral in upper case. -/
def hexNumber (cs : List Char) : Nat :=
  let digit (c : Char) := if c.isDigit then c.toNat - '0'.toNat else c.toNat - 'A'.toNat + 10
  cs.foldl (fun n c => n * 16 + digit c) 0

/-- The range that a word denotes: `first-last`, or one number. -/
def rangeOfWord (w : List Char) : Nat × Nat :=
  let first := w.takeWhile (· ≠ '-')
  match w.drop (first.length + 1) with
  | [] => (hexNumber first, hexNumber first)
  | last => (hexNumber first, hexNumber last)

/-- The words of a text, which blanks part. -/
def wordsOf (text : String) : List (List Char) :=
  (text.toList.splitOn ' ').filter (!·.isEmpty)

/-- The set whose ranges the lines list. -/
def ofLines (lines : List String) : CharSet :=
  ofRanges (lines.flatMap fun l => (wordsOf l).map rangeOfWord)

/-! ## Folding of case -/

/-- The groups of characters that are one up to case. -/
def foldingOrbits : List (List Nat) :=
  foldingGroups.flatMap fun l => (wordsOf l).map fun w => (w.splitOn '+').map hexNumber

/-- The set with all that is one with a member up to case. -/
def folded (s : CharSet) : CharSet :=
  let touched := foldingOrbits.filter fun o =>
    o.any fun n => s.ranges.any fun r => r.1 ≤ n && n ≤ r.2
  ofRanges (s.ranges ++ touched.flatMap fun o => o.map fun n => (n, n))

/-- The set with all ASCII letters that are one with a member up to case. -/
def foldedAscii (s : CharSet) : CharSet :=
  let lower := s.inter ⟨[(0x61, 0x7A)]⟩
  let upper := s.inter ⟨[(0x41, 0x5A)]⟩
  unions [s, ⟨lower.ranges.map fun r => (r.1 - 0x20, r.2 - 0x20)⟩,
    ⟨upper.ranges.map fun r => (r.1 + 0x20, r.2 + 0x20)⟩]

end CharSet

end TenantAuth

import TenantAuth.Text.Decimal

/-!
# Instants

Whole seconds since the epoch in 64 bits. A clock that is set forward past the end wraps around;
an expiry beyond the end does not exist.
-/
namespace TenantAuth

/-- A number of seconds since the epoch that fits 64 bits. -/
structure Instant where
  seconds : Int
  inRange : IsInt64 seconds
  deriving DecidableEq

namespace Instant

/-- The instant with the given seconds, if they fit. -/
def ofInt? (seconds : Int) : Option Instant :=
  if h : IsInt64 seconds then some ⟨seconds, h⟩ else none

/-- The instant whose seconds agree with `seconds` modulo `2 ^ 64`. -/
def wrap (seconds : Int) : Instant where
  seconds := Int.bmod seconds 0x10000000000000000
  inRange := by
    have lo : -0x8000000000000000 ≤ Int.bmod seconds 0x10000000000000000 := Int.le_bmod (by decide)
    have hi : Int.bmod seconds 0x10000000000000000 < 0x8000000000000000 := Int.bmod_lt (by decide)
    exact ⟨lo, Int.le_sub_one_of_lt hi⟩

/-- The instant `secs` later, wrapping around at the end. -/
def advance (t : Instant) (secs : Int) : Instant := wrap (t.seconds + secs)

/-- The instant `secs` later, if there is one. -/
def add? (t : Instant) (secs : Int) : Option Instant := ofInt? (t.seconds + secs)

instance : LE Instant := ⟨fun s t => s.seconds ≤ t.seconds⟩

instance : LT Instant := ⟨fun s t => s.seconds < t.seconds⟩

instance (s t : Instant) : Decidable (s ≤ t) := inferInstanceAs (Decidable (s.seconds ≤ t.seconds))

instance (s t : Instant) : Decidable (s < t) := inferInstanceAs (Decidable (s.seconds < t.seconds))

theorem ofInt?_eq_some_iff {i : Int} {t : Instant} : ofInt? i = some t ↔ t.seconds = i := by
  unfold ofInt?
  split
  · constructor
    · intro h
      cases h
      rfl
    · rintro rfl
      rfl
  · rename_i h
    constructor
    · intro k
      cases k
    · rintro rfl
      exact absurd t.inRange h

end Instant

end TenantAuth

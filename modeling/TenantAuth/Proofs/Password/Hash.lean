import TenantAuth.Password.Hash
import TenantAuth.Proofs.Outcome

/-!
# Stored hashes that are checked

A password is only ever compared with a stored hash that could be read, so the hash can be asked for
its cost afterwards (`needsRehash_of_verify`).
-/
namespace TenantAuth.Password

open Outcome

variable {password stored : String} {b : Bool}

/-- A comparison, however it comes out, is one with a hash that was read. -/
theorem parse_of_verify (h : verify password stored = .ok b) :
    ∃ read, StoredHash.parse stored = .ok read := by
  have hcheck : check password stored = .ok b := mapError_eq_ok.1 h
  unfold check at hcheck
  obtain ⟨read, hread, -⟩ := bind_eq_ok.1 hcheck
  exact ⟨read, hread⟩

/-- A stored hash that a password was compared with can be asked for its cost. -/
theorem needsRehash_of_verify (h : verify password stored = .ok b) :
    ∃ weak, needsRehash stored = .ok weak := by
  obtain ⟨read, hread⟩ := parse_of_verify h
  refine ⟨decide (read.cost < defaultCost), ?_⟩
  unfold needsRehash
  rw [hread]

end TenantAuth.Password

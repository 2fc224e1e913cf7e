import TenantAuth.Proofs.Outcome
import TenantAuth.Proofs.Password.Stored

/-!
# Hashes that are made and checked

A hash is made of any password, and another password passes against it just when it has the same
digest (`verify_hashOf`), so that the password it was made of always does. What a hash says about
its own cost decides whether it is to be replaced.
-/
namespace TenantAuth

open Outcome

/-- A digest has 23 bytes. -/
theorem Blowfish.length_digest (cost : Nat) (salt key : Bytes) :
    (digest cost salt key).length = 23 := by
  simp [digest, magicBlocks, wordBytes]

namespace Password

variable {password other : String} {cost : Nat} {salt : Bytes}

/-- The hash that a password has under a salt. -/
def hashOf (password : String) (cost : Nat) (salt : Bytes) : StoredHash :=
  ⟨cost, Base64.crypt.encode salt, Base64.crypt.encode (Blowfish.digest cost salt (key password))⟩

/-- At every cost from 4 to 31 a password is hashed. -/
theorem hashed_eq_ok (hcost : 4 ≤ cost ∧ cost ≤ 31) :
    hashed password cost salt = .ok (hashOf password cost salt) :=
  if_pos hcost

/-- What is stored then is the text of the hash. -/
theorem hashWithCost_eq_ok (hcost : 4 ≤ cost ∧ cost ≤ 31) :
    hashWithCost password cost salt = .ok (hashOf password cost salt).text := by
  rw [hashWithCost, hashed_eq_ok hcost]

/-- No other cost is accepted, and the error names it. -/
theorem hashWithCost_eq_error (hcost : ¬ (4 ≤ cost ∧ cost ≤ 31)) :
    hashWithCost password cost salt = .error (.internal
      s!"password hash: {(StoredHash.Fault.costNotAllowed cost).message}") := by
  have hfault : hashed password cost salt = .error (.costNotAllowed cost) := if_neg hcost
  rw [hashWithCost, hfault]

/-- A hash is well formed at such a cost and with a salt of sixteen bytes. -/
theorem wellFormed_hashOf (hcost : 4 ≤ cost ∧ cost ≤ 31) (hsalt : salt.length = 16) :
    (hashOf password cost salt).WellFormed where
  cost_lt := Nat.lt_of_le_of_lt hcost.2 (by decide)
  salt_over := Base64.over_encode _ _
  salt_length := by rw [hashOf, Base64.length_encode, hsalt]
  digest_over := Base64.over_encode _ _
  digest_length := by rw [hashOf, Base64.length_encode, Blowfish.length_digest]

/-- **A password passes against the hash of another just when both have the same digest.** -/
theorem verify_hashOf (hcost : 4 ≤ cost ∧ cost ≤ 31) (hsalt : salt.length = 16) :
    verify other (hashOf password cost salt).text = .ok (decide
      (Blowfish.digest cost salt (key other) = Blowfish.digest cost salt (key password))) := by
  -- the salt is read back as it was, so the digest is made under the same one
  have hread : ∀ b, (Base64.crypt.decode (Base64.crypt.encode b)).mapError StoredHash.Fault.base64
      = .ok b := fun b => mapError_eq_ok.2 (Base64.crypt_lawful.decode_encode b)
  -- the digests are compared as texts, which comes to the same
  have hsame : Base64.crypt.encode (Blowfish.digest cost salt (key password))
        = Base64.crypt.encode (Blowfish.digest cost salt (key other)) ↔
      Blowfish.digest cost salt (key other) = Blowfish.digest cost salt (key password) :=
    ⟨fun h => (Base64.crypt_lawful.encode_injective h).symm, fun h => by rw [h]⟩
  refine mapError_eq_ok.2 ?_
  rw [check, (wellFormed_hashOf hcost hsalt).parse_text, ok_bind]
  dsimp only [hashOf]
  rw [hread, ok_bind, hashed_eq_ok hcost, ok_bind, hread, ok_bind]
  dsimp only [hashOf]
  simp only [hsame]
  rfl

/-- It is weak just when its cost is below the default. -/
theorem needsRehash_hashOf (hcost : 4 ≤ cost ∧ cost ≤ 31) (hsalt : salt.length = 16) :
    needsRehash (hashOf password cost salt).text = .ok (decide (cost < defaultCost)) := by
  rw [needsRehash, (wellFormed_hashOf hcost hsalt).parse_text]
  rfl

/-- **What is made of a password is a hash that the password passes against.** At a cost from 4 to
31 every password has one, of 60 characters, which is to be replaced if the cost is below that of
new hashes; at any other cost there is an error. New hashes never have to be replaced. -/
theorem hash_round_trip (password : String) (salt : Bytes) (hsalt : salt.length = 16) :
    (∀ cost, 4 ≤ cost ∧ cost ≤ 31 → ∃ stored, hashWithCost password cost salt = .ok stored ∧
      stored.length = 60 ∧ verify password stored = .ok true ∧
      needsRehash stored = .ok (decide (cost < defaultCost))) ∧
    (∀ cost, ¬ (4 ≤ cost ∧ cost ≤ 31) → hashWithCost password cost salt = .error (.internal
      s!"password hash: {(StoredHash.Fault.costNotAllowed cost).message}")) ∧
    hash password salt = hashWithCost password defaultCost salt ∧
    ∃ stored, hash password salt = .ok stored ∧ needsRehash stored = .ok false := by
  have hdefault : 4 ≤ defaultCost ∧ defaultCost ≤ 31 := by decide
  refine ⟨fun cost hcost => ?_, fun cost hcost => hashWithCost_eq_error hcost, rfl,
    _, hashWithCost_eq_ok hdefault, needsRehash_hashOf hdefault hsalt⟩
  refine ⟨_, hashWithCost_eq_ok hcost, (wellFormed_hashOf hcost hsalt).length_text, ?_,
    needsRehash_hashOf hcost hsalt⟩
  rw [verify_hashOf hcost hsalt, decide_eq_true rfl]

/-- A salt. -/
def bitPattern : Bytes :=
  [0x01, 0x23, 0x45, 0x67, 0x89, 0xAB, 0xCD, 0xEF, 0xFE, 0xDC, 0xBA, 0x98, 0x76, 0x54, 0x32, 0x10]

/-- A password at the least cost, which is too cheap for new hashes. -/
theorem hash_round_trip_cheap :
    ∃ stored, hashWithCost "pässword 1" 4 bitPattern = .ok stored ∧ stored.length = 60 ∧
      verify "pässword 1" stored = .ok true ∧ needsRehash stored = .ok true :=
  (hash_round_trip "pässword 1" bitPattern rfl).1 4 (by decide)

end Password

end TenantAuth

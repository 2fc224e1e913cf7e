import Mathlib.Data.List.Basic
import TenantAuth.Proofs.Password.Verify

/-!
# What of a password counts

The schedule reads a key over and over until it has 72 bytes (`keyBytes`), and the digest depends on
those alone (`digest_keyBytes`). So of a password, which is followed by a zero byte, nothing counts
beyond its 72nd byte; and before that limit an extension is noticed by what stands in the place of
the zero byte. Whether two passwords that differ in what counts also differ in their digests is up
to the cipher: where they do not, `Collision` names the two keys.
-/
namespace TenantAuth

/-! ## The bytes of a key -/

namespace Blowfish

variable {key : Bytes} {i cost : Nat}

/-- The bytes that the schedule reads of a key. -/
def keyBytes (key : Bytes) : Bytes := (List.range 72).map fun i => key.getD (i % key.length) 0

/-- The bytes that count are 72. -/
theorem length_keyBytes (key : Bytes) : (keyBytes key).length = 72 := by
  rw [keyBytes, List.length_map, List.length_range]

/-- They are the key, over and over. -/
theorem getD_keyBytes (hi : i < 72) : (keyBytes key).getD i 0 = key.getD (i % key.length) 0 := by
  rw [keyBytes, List.getD_eq_getElem?_getD, List.getElem?_map, List.getElem?_range hi]
  rfl

/-- The words of a key are made of those bytes. -/
theorem keyWord_keyBytes (key : Bytes) {start : Nat} (hstart : start + 4 ≤ 72) :
    keyWord ⟨(keyBytes key).toArray⟩ start = keyWord ⟨key.toArray⟩ start := by
  have hbyte : ∀ i, start + i < 72 →
      (keyBytes key).toArray.getD ((start + i) % (keyBytes key).toArray.size) 0
        = key.toArray.getD ((start + i) % key.toArray.size) 0 := by
    intro i hi
    -- the key is not read over again before its 72 bytes are over
    have hplace : (start + i) % (keyBytes key).length = start + i := by
      rw [length_keyBytes]
      exact Nat.mod_eq_of_lt hi
    rw [List.size_toArray, List.size_toArray, hplace]
    simpa [Array.getD_eq_getD_getElem?, List.getD_eq_getElem?_getD] using getD_keyBytes hi
  simp only [keyWord, ByteArray.size]
  rw [hbyte 0 (by omega), hbyte 1 (by omega), hbyte 2 (by omega), hbyte 3 (by omega)]

/-- The words of the cipher are mixed with the bytes that count. -/
theorem mixKey_keyBytes (words : Array UInt32) :
    mixKey words ⟨(keyBytes key).toArray⟩ = mixKey words ⟨key.toArray⟩ := by
  refine List.foldl_ext _ _ _ fun ws i hi => ?_
  have hword : 4 * i + 4 ≤ 72 := by
    have hround := List.mem_range.1 hi
    omega
  rw [keyWord_keyBytes key hword]

/-- So is each round of the expansion. -/
theorem expand_keyBytes (salt words : Array UInt32) :
    expand salt ⟨(keyBytes key).toArray⟩ words = expand salt ⟨key.toArray⟩ words := by
  rw [expand, mixKey_keyBytes, expand]

/-- So is the whole key schedule, whatever the cost. -/
theorem schedule_keyBytes (salt : ByteArray) :
    schedule cost salt ⟨(keyBytes key).toArray⟩ = schedule cost salt ⟨key.toArray⟩ := by
  simp only [schedule, expand_keyBytes]

/-- **The digest of a key depends on the 72 bytes alone.** -/
theorem digest_keyBytes (cost : Nat) (salt key : Bytes) :
    digest cost salt (keyBytes key) = digest cost salt key := by
  rw [digest, schedule_keyBytes, digest]

/-- Two different keys of 72 bytes have the same digest. -/
structure Collision (cost : Nat) (salt k k' : Bytes) : Prop where
  length_eq : k.length = 72 ∧ k'.length = 72
  ne : k ≠ k'
  digest_eq : digest cost salt k = digest cost salt k'

/-- Keys have the same digest if the same is read of them, and else only by a collision. -/
theorem digest_eq_iff {salt k k' : Bytes} :
    digest cost salt k = digest cost salt k' ↔
      keyBytes k = keyBytes k' ∨ Collision cost salt (keyBytes k) (keyBytes k') := by
  rw [← digest_keyBytes cost salt k, ← digest_keyBytes cost salt k']
  constructor
  · intro heq
    by_cases hsame : keyBytes k = keyBytes k'
    · exact .inl hsame
    · exact .inr ⟨⟨length_keyBytes k, length_keyBytes k'⟩, hsame, heq⟩
  · rintro (hsame | hcollision)
    · rw [hsame]
    · exact hcollision.digest_eq

end Blowfish

/-! ## The bytes of a password -/

namespace Password

variable {p s : String} {cost : Nat} {salt : Bytes}

/-- What counts of a password: 72 bytes of it and a zero byte, over and over. -/
def counted (password : String) : Bytes := Blowfish.keyBytes (key password)

/-- The key of an extended password: the bytes of both and a zero byte, cut to 72. -/
theorem key_append (p s : String) :
    key (p ++ s) = (Text.bytes p ++ (Text.bytes s ++ [0])).take 72 := by
  rw [key, Text.bytes_append, List.append_assoc]

/-- **Nothing counts after the 72nd byte.** -/
theorem counted_append_of_long (hlong : 72 ≤ (Text.bytes p).length) (s : String) :
    counted (p ++ s) = counted p := by
  have hkey : key (p ++ s) = key p := by
    rw [key_append, key, List.take_append_of_le_length hlong, List.take_append_of_le_length hlong]
  rw [counted, hkey, counted]

/-- The bytes of a short password are followed by the zero byte. -/
theorem getD_counted_of_short (hshort : (Text.bytes p).length < 72) :
    (counted p).getD (Text.bytes p).length 0 = 0 := by
  -- the key is not cut, so its last byte is the zero
  have hkey : key p = Text.bytes p ++ [0] := by
    refine List.take_of_length_le ?_
    rw [List.length_append, List.length_singleton]
    omega
  have hplace : (Text.bytes p).length % (key p).length = (Text.bytes p).length := by
    refine Nat.mod_eq_of_lt ?_
    rw [hkey, List.length_append, List.length_singleton]
    omega
  rw [counted, Blowfish.getD_keyBytes hshort, hplace, hkey]
  simp

/-- In an extended password the extension stands in the place of the zero byte. -/
theorem getD_counted_append {x : UInt8} {rest : Bytes} (hshort : (Text.bytes p).length < 72)
    (hs : Text.bytes s = x :: rest) : (counted (p ++ s)).getD (Text.bytes p).length 0 = x := by
  have hkey : key (p ++ s) = (Text.bytes p ++ x :: (rest ++ [0])).take 72 := by
    rw [key_append, hs, List.cons_append]
  -- the place after the password is inside the key, also where that is cut
  have hplace : (Text.bytes p).length % (key (p ++ s)).length = (Text.bytes p).length := by
    refine Nat.mod_eq_of_lt ?_
    rw [hkey, List.length_take, List.length_append, List.length_cons]
    omega
  rw [counted, Blowfish.getD_keyBytes hshort, hplace, hkey, List.getD_eq_getElem?_getD,
    List.getElem?_take, if_pos hshort]
  simp

/-- **Within the first 72 bytes an extension counts,** unless it begins with the zero character. -/
theorem counted_append_ne (hshort : (Text.bytes p).length < 72) (hs : s ≠ "")
    (hfirst : s.toList.head? ≠ some '\x00') : counted p ≠ counted (p ++ s) := by
  obtain ⟨x, rest, hbytes, hx⟩ := Text.exists_bytes_eq_cons hs hfirst
  intro heq
  have hend := getD_counted_of_short hshort
  rw [heq, getD_counted_append hshort hbytes] at hend
  exact hx hend

/-- **A password passes against the hash of another just when the same counts of both,** but for
collisions. -/
theorem verify_hashOf_iff {password other : String} (hcost : 4 ≤ cost ∧ cost ≤ 31)
    (hsalt : salt.length = 16) :
    ∃ b, verify other (hashOf password cost salt).text = .ok b ∧
      (b = true ↔ counted other = counted password ∨
        Blowfish.Collision cost salt (counted other) (counted password)) := by
  refine ⟨_, verify_hashOf hcost hsalt, ?_⟩
  rw [decide_eq_true_iff, Blowfish.digest_eq_iff]
  rfl

/-- **Which part of a password is ignored.** A password and an extension of it pass against the
hashes of each other just when the same counts of both, but for collisions. That is so if the
password has 72 bytes by itself. If it is shorter, the extension counts, unless it begins with the
zero character. -/
theorem extension_counts (p s : String) (hs : s ≠ "") (cost : Nat) (hcost : 4 ≤ cost ∧ cost ≤ 31)
    (salt : Bytes) (hsalt : salt.length = 16) :
    ∃ stored stored', hashWithCost p cost salt = .ok stored ∧
      hashWithCost (p ++ s) cost salt = .ok stored' ∧
      (∃ b, verify (p ++ s) stored = .ok b ∧ (b = true ↔ counted (p ++ s) = counted p ∨
        Blowfish.Collision cost salt (counted (p ++ s)) (counted p))) ∧
      (∃ b, verify p stored' = .ok b ∧ (b = true ↔ counted p = counted (p ++ s) ∨
        Blowfish.Collision cost salt (counted p) (counted (p ++ s)))) ∧
      (72 ≤ (Text.bytes p).length → counted (p ++ s) = counted p) ∧
      ((Text.bytes p).length < 72 → s.toList.head? ≠ some '\x00' → counted p ≠ counted (p ++ s)) :=
  ⟨_, _, hashWithCost_eq_ok hcost, hashWithCost_eq_ok hcost, verify_hashOf_iff hcost hsalt,
    verify_hashOf_iff hcost hsalt, fun hlong => counted_append_of_long hlong s,
    fun hshort => counted_append_ne hshort hs⟩

/-- A short password and one character more: only a collision would make the one pass for the
other. -/
theorem extension_counts_short :
    ∃ stored, hashWithCost "pw" 4 (List.replicate 16 0) = .ok stored ∧
      (verify "pw!" stored = .ok true →
        Blowfish.Collision 4 (List.replicate 16 0) (counted "pw!") (counted "pw")) := by
  obtain ⟨stored, -, hstored, -, ⟨b, hb, hiff⟩, -, -, hcounts⟩ :=
    extension_counts "pw" "!" (by decide) 4 (by decide) (List.replicate 16 0) rfl
  refine ⟨stored, hstored, fun hverify => ?_⟩
  -- the same counts of both only if the exclamation mark were the zero byte
  have htrue : b = true := Except.ok.inj (hb.symm.trans hverify)
  exact (hiff.1 htrue).resolve_left fun heq => hcounts (by decide) (by decide) heq.symm

/-- The 73rd byte of a password is ignored, and so is a zero character with what repeats the
password. -/
theorem extension_is_ignored :
    (∃ stored, hashWithCost (String.ofList (List.replicate 72 'a')) 4 (List.replicate 16 0)
        = .ok stored ∧
      verify (String.ofList (List.replicate 72 'a') ++ "b") stored = .ok true) ∧
    ∃ stored, hashWithCost "a" 4 (List.replicate 16 0) = .ok stored ∧
      verify ("a" ++ "\x00a") stored = .ok true := by
  -- where the same counts of both the digests are equal, whatever the cipher does
  have hpasses : ∀ p s, counted (p ++ s) = counted p →
      ∃ stored, hashWithCost p 4 (List.replicate 16 0) = .ok stored ∧
        verify (p ++ s) stored = .ok true := by
    intro p s hsame
    refine ⟨_, hashWithCost_eq_ok (by decide), ?_⟩
    rw [verify_hashOf (by decide) rfl, decide_eq_true (Blowfish.digest_eq_iff.2 (.inl hsame))]
  refine ⟨hpasses _ _ (counted_append_of_long ?_ _), hpasses _ _ (by decide)⟩
  decide

end Password

end TenantAuth

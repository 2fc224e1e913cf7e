import TenantAuth.Proofs.Base64
import TenantAuth.Proofs.Outcome
import TenantAuth.Proofs.Text.Ascii
import TenantAuth.Proofs.Token.Payload

/-!
# Decoding what was encoded

A token falls apart into the three segments it was joined from, and the segments into the header,
the claims and the signature. `decode_encode` says that a token carries the claims it was signed
for, as long as they start and expire at or after the epoch.
-/
namespace TenantAuth.SignedToken

open Outcome

/-! ## Segments -/

/-- What stands before the first dot. -/
theorem takeWhile_dot {a : Bytes} (ha : dot ∉ a) (b : Bytes) :
    (a ++ dot :: b).takeWhile (· ≠ dot) = a := by
  have hpos : ∀ x ∈ a, decide (x ≠ dot) = true := by
    intro x hx
    refine decide_eq_true ?_
    rintro rfl
    exact ha hx
  rw [List.takeWhile_append_of_pos hpos, List.takeWhile_cons_of_neg (by decide), List.append_nil]

/-- The last dot is the one before a part without dots. -/
theorem splitLast_append {m s : Bytes} (hs : dot ∉ s) :
    splitLast (m ++ dot :: s) = some (m, s) := by
  have hafter : ((m ++ dot :: s).reverse.takeWhile (· ≠ dot)).reverse = s := by
    have hreverse : dot ∉ s.reverse := fun h => hs (List.mem_reverse.1 h)
    rw [List.reverse_append, List.reverse_cons, List.append_assoc, List.singleton_append,
      takeWhile_dot hreverse, List.reverse_reverse]
  have hlength : (m ++ dot :: s).length = m.length + (s.length + 1) := by
    rw [List.length_append, List.length_cons]
  rw [splitLast]
  rw [hafter, hlength, if_neg (by omega),
    show m.length + (s.length + 1) - s.length - 1 = m.length by omega, List.take_left]

theorem segments_append {header payload mark : Bytes} (hp : dot ∉ payload) (hm : dot ∉ mark) :
    segments (header ++ dot :: payload ++ dot :: mark) = some (header, payload, mark) := by
  rw [segments, splitLast_append hm]
  dsimp only [Option.bind_eq_bind, Option.bind_some]
  rw [splitLast_append hp]
  rfl

/-! ## Encoded tokens -/

theorem dot_not_mem_signature (secret m : Bytes) : dot ∉ signature secret m :=
  Base64.dot_not_mem_url_encode _

theorem length_signature (secret m : Bytes) : (signature secret m).length = 43 := by
  unfold signature Sha256.hmac Sha256.digest
  generalize Sha256.absorb _ _ = s
  rfl

/-- A token is written in ASCII characters. -/
theorem bytes_encode (secret : Bytes) (c : TokenClaims) :
    Text.bytes (encode secret c) = message c ++ dot :: signature secret (message c) := by
  refine Text.bytes_ofAscii fun x hx => ?_
  rcases List.mem_append.1 hx with hx | hx
  · rcases List.mem_append.1 hx with hx | hx
    · exact Base64.lt_of_mem_url_encode hx
    · rcases List.mem_cons.1 hx with rfl | hx
      · decide
      · exact Base64.lt_of_mem_url_encode hx
  · rcases List.mem_cons.1 hx with rfl | hx
    · decide
    · exact Base64.lt_of_mem_url_encode hx

/-- A token that is written has three segments. -/
theorem segments_encode (secret : Bytes) (c : TokenClaims) :
    segments (Text.bytes (encode secret c))
      = some (Base64.url.encode TokenHeader.toJson.text, Base64.url.encode c.toJson.text,
          signature secret (message c)) := by
  rw [bytes_encode, message]
  exact segments_append (Base64.dot_not_mem_url_encode _) (dot_not_mem_signature secret _)

theorem bytesOf_encode (b : Bytes) : bytesOf (Base64.url.encode b) = .ok b := by
  rw [bytesOf, Base64.url_lawful.decode_encode]
  rfl

theorem valueOf_ok {α : Type} {r : Json.Reader α} {input : Bytes} {a : α}
    (h : Json.Reader.Reads r input a) : valueOf r input = .ok a := by
  rw [valueOf, h.whole]
  rfl

/-- A payload gives its claims where both readers take it and the second finds both instants. -/
theorem claimsOf_eq_ok {payload : Bytes} {c : TokenClaims} :
    claimsOf payload = .ok c ↔
      ∃ input, bytesOf payload = .ok input ∧ valueOf TokenClaims.reader input = .ok c ∧
        ∃ r, valueOf Registered.reader input = .ok r ∧ r.expiry.isSome ∧ r.notBefore.isSome := by
  simp only [claimsOf, bind_eq_ok, throw_eq, guard_eq_ok, pure_eq, Except.ok.injEq,
    Bool.not_eq_true, Option.isNone_eq_false_iff]
  constructor
  · rintro ⟨input, hinput, c', hc, r, hr, hexp, hnbf, rfl⟩
    exact ⟨input, hinput, hc, r, hr, hexp, hnbf⟩
  · rintro ⟨input, hinput, hc, r, hr, hexp, hnbf⟩
    exact ⟨input, hinput, c, hc, r, hr, hexp, hnbf, rfl⟩

/-- What has to hold for a token to carry claims. -/
theorem decode_eq_ok {secret : Bytes} {token : String} {c : TokenClaims} :
    decode secret token = .ok c ↔
      ∃ header payload, segments (Text.bytes token)
          = some (header, payload, signature secret (header ++ dot :: payload)) ∧
        (∃ h, bytesOf header = .ok h ∧ valueOf TokenHeader.reader h = .ok .hs256) ∧
        claimsOf payload = .ok c := by
  rw [decode]
  cases segments (Text.bytes token) with
  | none => exact ⟨nofun, fun ⟨_, _, h, _⟩ => nomatch h⟩
  | some parts =>
    obtain ⟨header, payload, mark⟩ := parts
    -- each step of decoding is one condition of the statement
    simp only [bind_eq_ok, throw_eq, guard_eq_ok, ne_eq, Decidable.not_not]
    constructor
    · rintro ⟨h, hh, a, ha, rfl, rfl, hc⟩
      exact ⟨header, payload, rfl, ⟨h, hh, ha⟩, hc⟩
    · rintro ⟨header', payload', hparts, ⟨h, hh, ha⟩, hc⟩
      cases hparts
      exact ⟨h, hh, .hs256, ha, rfl, rfl, hc⟩

/-- Instants before the epoch are no registered claims, so that the payload is only read back where
it has none. -/
theorem claimsOf_encode {c : TokenClaims} (hstart : 0 ≤ c.notBefore.seconds)
    (hend : 0 ≤ c.expiry.seconds) : claimsOf (Base64.url.encode c.toJson.text) = .ok c := by
  obtain ⟨nbf, hnbf⟩ := Int.eq_ofNat_of_zero_le hstart
  obtain ⟨exp, hexp⟩ := Int.eq_ofNat_of_zero_le hend
  have hclaims : valueOf TokenClaims.reader c.toJson.text = .ok c := valueOf_ok c.reads_reader
  have hregistered : valueOf Registered.reader c.toJson.text
      = .ok ⟨["exp", "nbf"], some exp, some nbf⟩ :=
    valueOf_ok (Registered.reads_reader c hnbf hexp)
  exact claimsOf_eq_ok.2 ⟨_, bytesOf_encode _, hclaims, _, hregistered, rfl, rfl⟩

/-- **A token carries the claims it was signed for.** -/
theorem decode_encode {c : TokenClaims} (secret : Bytes) (hstart : 0 ≤ c.notBefore.seconds)
    (hend : 0 ≤ c.expiry.seconds) : decode secret (encode secret c) = .ok c := by
  have hheader : valueOf TokenHeader.reader TokenHeader.toJson.text = .ok .hs256 :=
    valueOf_ok TokenHeader.reads_reader
  exact decode_eq_ok.2 ⟨_, _, segments_encode secret c, ⟨_, bytesOf_encode _, hheader⟩,
    claimsOf_encode hstart hend⟩

/-- A signed token carries the claims it was signed for, or none at all. -/
theorem eq_of_decode_encode {secret : Bytes} {c c' : TokenClaims}
    (h : decode secret (encode secret c) = .ok c') : c' = c := by
  obtain ⟨header, payload, hsegments, -, hpayload⟩ := decode_eq_ok.1 h
  rw [segments_encode] at hsegments
  cases hsegments
  obtain ⟨input, hinput, hread, -⟩ := claimsOf_eq_ok.1 hpayload
  rw [bytesOf_encode] at hinput
  cases hinput
  rw [valueOf_ok c.reads_reader] at hread
  cases hread
  rfl

end TenantAuth.SignedToken

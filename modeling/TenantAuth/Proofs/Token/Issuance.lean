import TenantAuth.Proofs.Token.LifeCycle

/-!
# Issued roles

An access token carries the list of a role set, which is the same for all lists of names with the
same members. `SignedToken.encode_injective` says that no two payloads make one token, so that
tokens tell role sets apart.
-/
namespace TenantAuth

namespace SignedToken

/-- A token names its claims: no two payloads make one token. -/
theorem encode_injective {secret : Bytes} {c c' : TokenClaims}
    (h : encode secret c = encode secret c') : c = c' := by
  have hsegments := segments_encode secret c
  rw [h, segments_encode, Option.some.injEq, Prod.mk.injEq, Prod.mk.injEq] at hsegments
  have htext : c'.toJson.text = c.toJson.text :=
    Base64.url_lawful.encode_injective hsegments.2.1
  have hread := c.reads_reader.whole
  rw [← htext, c'.reads_reader.whole] at hread
  cases hread
  rfl

end SignedToken

namespace TokenManager

open RoleSet (ofList)

variable {m : TokenManager} {now : Instant} {userId tenantId email : String}
  {names names' : List String} {token token' : String}

/-- Lists with the same members are issued as one token. -/
theorem issueAccess_congr (h : ∀ r, r ∈ names ↔ r ∈ names') :
    m.issueAccess now userId tenantId email names
      = m.issueAccess now userId tenantId email names' := by
  rw [issueAccess, RoleSet.ofList_eq_ofList.2 h, issueAccess]

/-- The members of a list can be told from the token that it was issued as. -/
theorem same_members_of_issueAccess (h : m.issueAccess now userId tenantId email names = .ok token)
    (h' : m.issueAccess now userId tenantId email names' = .ok token) :
    ∀ r, r ∈ names ↔ r ∈ names' := by
  obtain ⟨expiry, -, htoken⟩ := sign_eq_ok.1 h
  obtain ⟨expiry', -, htoken'⟩ := sign_eq_ok.1 h'
  rw [htoken] at htoken'
  have hclaims := SignedToken.encode_injective htoken'
  have hlists : (ofList names).toList = (ofList names').toList := congrArg TokenClaims.roles hclaims
  exact RoleSet.ofList_eq_ofList.1 (RoleSet.ext hlists)

/-- **Roles are issued as a set.** The set of a list holds exactly the names in the list, each once
and in the order of their bytes, and is the same for two lists just when they have the same members.
So is the token that carries it, whoever it is issued for. -/
theorem roles_issued_as_set (names names' : List String) :
    ((∀ r, r ∈ ofList names ↔ r ∈ names) ∧
      ((ofList names).toList.Pairwise fun s t => Text.bytes s < Text.bytes t) ∧
      (ofList names).size = names.toFinset.card ∧
      ofList (ofList names).toList = ofList names) ∧
    (ofList names = ofList names' ↔ ∀ r, r ∈ names ↔ r ∈ names') ∧
    ∀ (m : TokenManager) (now : Instant) (userId tenantId email : String),
      ((∀ r, r ∈ names ↔ r ∈ names') →
        m.issueAccess now userId tenantId email names
          = m.issueAccess now userId tenantId email names') ∧
      ∀ token token', m.issueAccess now userId tenantId email names = .ok token →
        m.issueAccess now userId tenantId email names' = .ok token' →
        (¬ ∀ r, r ∈ names ↔ r ∈ names') → token ≠ token' := by
  refine ⟨⟨fun _ => RoleSet.mem_ofList, (ofList names).sorted, RoleSet.size_ofList names,
    RoleSet.ofList_toList _⟩, RoleSet.ofList_eq_ofList, ?_⟩
  intro m now userId tenantId email
  refine ⟨issueAccess_congr, ?_⟩
  intro token token' htoken htoken' hmembers
  rintro rfl
  exact hmembers (same_members_of_issueAccess htoken htoken')

/-- An order and repetitions of names do not show in a token, one more name does. -/
theorem roles_issued_as_set_hourly :
    (∀ r, r ∈ ["b", "a", "b"] ↔ r ∈ ["a", "b"]) ∧
    hourly.issueAccess epoch "ada" "acme" "" ["b", "a", "b"]
      = hourly.issueAccess epoch "ada" "acme" "" ["a", "b"] ∧
    ∃ token token', hourly.issueAccess epoch "ada" "acme" "" ["b", "a", "b"] = .ok token ∧
      hourly.issueAccess epoch "ada" "acme" "" ["a", "b", "c"] = .ok token' ∧
      (¬ ∀ r, r ∈ ["b", "a", "b"] ↔ r ∈ ["a", "b", "c"]) ∧ token ≠ token' := by
  have hsame : ∀ r, r ∈ ["b", "a", "b"] ↔ r ∈ ["a", "b"] := by
    intro r
    simp only [List.mem_cons, List.not_mem_nil, or_false]
    tauto
  have hmore : ¬ ∀ r, r ∈ ["b", "a", "b"] ↔ r ∈ ["a", "b", "c"] := by
    intro h
    exact absurd ((h "c").2 (by decide)) (by decide)
  -- tokens are minted for both lists at the same instant
  obtain ⟨token, htoken⟩ : ∃ token,
      hourly.issueAccess epoch "ada" "acme" "" ["b", "a", "b"] = .ok token := ⟨_, rfl⟩
  obtain ⟨token', htoken'⟩ : ∃ token,
      hourly.issueAccess epoch "ada" "acme" "" ["a", "b", "c"] = .ok token := ⟨_, rfl⟩
  refine ⟨hsame, ?_, token, token', htoken, htoken', hmore, ?_⟩
  · have hissued := (roles_issued_as_set ["b", "a", "b"] ["a", "b"]).2.2
    exact (hissued hourly epoch "ada" "acme" "").1 hsame
  · exact ((roles_issued_as_set ["b", "a", "b"] ["a", "b", "c"]).2.2 hourly epoch "ada" "acme" "").2
      token token' htoken htoken' hmore

end TokenManager

end TenantAuth

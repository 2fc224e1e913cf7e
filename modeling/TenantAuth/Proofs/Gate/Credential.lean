import TenantAuth.Proofs.Gate.Authentication
import TenantAuth.Proofs.Text.Utf8

/-!
# Which header fields hold a credential

The grammar of the `Authorization` field, to the byte. Only the first field of the name counts, and
its value is a credential (`Credential`) or malformed; a request with a malformed one is turned
away by `requireAuth` in the same words whatever is wrong with it. Of all blanks it is the tab alone
that a token may hold, since the grammar divides the value at spaces.
-/
namespace TenantAuth.Bearer

open Outcome

variable {h : Headers} {tok : String}

/-- There is an `Authorization` field, and the first one is no credential. -/
def Malformed (h : Headers) : Prop :=
  (∃ value, h.first? "authorization" = some value) ∧ ∀ tok, ¬ Credential h tok

/-- A token is found just where the request has a credential. -/
theorem token_eq_ok_iff : token h = .ok tok ↔ Credential h tok := token_eq_ok.trans carries_iff

/-- The headers give a token, or one of two errors. -/
theorem token_cases (h : Headers) :
    h.first? "authorization" = none ∧ token h = .error (.missingCredential .absent) ∨
      ∃ value, h.first? "authorization" = some value ∧
        (token h = .error (.missingCredential .malformed) ∨ ∃ tok, token h = .ok tok) := by
  -- without the field a credential is absent, and with it malformed or there
  cases hfield : h.first? "authorization" with
  | none =>
    rw [token, hfield]
    exact .inl ⟨rfl, rfl⟩
  | some value =>
    refine .inr ⟨value, rfl, ?_⟩
    rw [token, hfield]
    dsimp only
    cases (Headers.visibleText? value).bind tokenOf? with
    | none => exact .inl rfl
    | some tok => exact .inr ⟨tok, rfl⟩

/-- A credential is absent just where the field is. -/
theorem token_eq_absent :
    token h = .error (.missingCredential .absent) ↔ h.first? "authorization" = none := by
  rcases token_cases h with ⟨hnone, herror⟩ | ⟨value, hvalue, herror | ⟨tok, hok⟩⟩
  · exact ⟨fun _ => hnone, fun _ => herror⟩
  · rw [herror, hvalue]
    exact ⟨nofun, nofun⟩
  · rw [hok, hvalue]
    exact ⟨nofun, nofun⟩

/-- It is malformed in all other cases. -/
theorem token_eq_malformed :
    token h = .error (.missingCredential .malformed) ↔ Malformed h := by
  simp only [Malformed, ← token_eq_ok_iff]
  rcases token_cases h with ⟨hnone, herror⟩ | ⟨value, hvalue, herror | ⟨tok, hok⟩⟩
  · rw [herror, hnone]
    exact ⟨nofun, fun hfield => nomatch hfield.1⟩
  · rw [herror]
    exact ⟨fun _ => ⟨⟨value, hvalue⟩, fun _ => nofun⟩, fun _ => rfl⟩
  · rw [hok]
    exact ⟨nofun, fun hnot => absurd rfl (hnot.2 tok)⟩

/-- The tab is the only blank among the characters of a token. -/
theorem Credential.eq_tab (hcred : Credential h tok) {c : Char} (hc : c ∈ tok.toList)
    (hblank : Text.isBlank c = true) : c = '\t' := by
  rcases hcred.chars c hc with htab | ⟨hlow, hhigh⟩
  · exact htab
  · have hblank' : ∀ n, n < 0x7F → 0x21 ≤ n → Text.isBlank (Char.ofNat n) = false := by decide
    have hnot := hblank' c.toNat (Nat.lt_succ_of_le (Text.le_iff_toNat_le.1 hhigh))
      (Text.le_iff_toNat_le.1 hlow)
    rw [Char.ofNat_toNat, hblank] at hnot
    cases hnot

/-- A request whose headers give no token is turned away for the same reason. -/
theorem wrap_requireAuth_of_error {env : Env} {r : Request} {w : World} {e : AuthError}
    (herror : token r.headers = .error e) (service : Service) :
    Layer.wrap env .requireAuth service r w = ((r.context.reject e).toResponse, w) := by
  have hauth : authenticate env.tokens env.now r.headers = .error e := by
    rw [authenticate, herror, error_bind]
  refine Layer.wrap_of_error ?_ service
  rw [Layer.enter, hauth]
  rfl

/-- **The grammar of a credential.** A token is what follows the word `Bearer` and one space in the
first `Authorization` field, a text of visible ASCII characters and tabs; without such a field the
credential is absent, in every other case it is malformed, and `requireAuth` says so. -/
theorem token_grammar (h : Headers) :
    (∀ tok, token h = .ok tok ↔ Credential h tok) ∧
    (∀ tok, Credential h tok → ∀ c ∈ tok.toList, Text.isBlank c = true → c = '\t') ∧
    (token h = .error (.missingCredential .absent) ↔ h.first? "authorization" = none) ∧
    (token h = .error (.missingCredential .malformed) ↔ Malformed h) ∧
    (Malformed h → ∀ (env : Env) (service : Service) (r : Request) (w : World), r.headers = h →
      Layer.wrap env .requireAuth service r w = (Rejection.toResponse
        ⟨.unauthorized "Invalid authorization header format", r.context.correlationId⟩, w)) := by
  refine ⟨fun _ => token_eq_ok_iff, fun _ hcred _ hc hblank => hcred.eq_tab hc hblank,
    token_eq_absent, token_eq_malformed, ?_⟩
  rintro hmalformed env service r w rfl
  exact wrap_requireAuth_of_error (token_eq_malformed.2 hmalformed) service

/-- A credential of another scheme, and one for a bearer after it. -/
def otherScheme : Headers :=
  [("authorization", Text.bytes "Token abc"), ("authorization", Text.bytes "Bearer abc")]

theorem malformed_otherScheme : Malformed otherScheme := by
  refine ⟨⟨_, rfl⟩, fun tok hcred => ?_⟩
  have hfield : Text.bytes "Token abc" = Text.bytes "Bearer " ++ Text.bytes tok := by
    rw [← Text.bytes_append]
    exact Option.some.inj hcred.field
  have hhead : (Text.bytes "Token abc").head? = (Text.bytes "Bearer ").head? := by
    rw [hfield]
    rfl
  exact absurd hhead (by decide)

/-- The first field counts, and no later one makes up for it. -/
theorem token_grammar_otherScheme :
    Malformed otherScheme ∧
      Layer.wrap Layer.atEpoch .requireAuth (fun _ w => (.empty 200, w))
        ⟨"GET", "/", otherScheme, [], .empty⟩ ⟨0, 0⟩ =
      (Rejection.toResponse ⟨.unauthorized "Invalid authorization header format", none⟩, ⟨0, 0⟩) :=
  ⟨malformed_otherScheme, (token_grammar otherScheme).2.2.2.2 malformed_otherScheme _ _ _ _ rfl⟩

/-- A token with a blank in it passes for one, if the blank is a tab. -/
theorem tab_in_token_is_accepted :
    token [("authorization", Text.bytes "Bearer a\tb")] = .ok "a\tb" ∧
      ∃ c ∈ ("a\tb" : String).toList, Text.isBlank c = true := by
  refine ⟨token_eq_ok_iff.2 ⟨rfl, by decide, by simp⟩, '\t', by decide, by decide⟩

end TenantAuth.Bearer

import TenantAuth.Gate.Bearer
import TenantAuth.Proofs.Http.Headers
import TenantAuth.Proofs.Outcome
import TenantAuth.Proofs.Token.Decode

/-!
# Bearer tokens

`Carries` spells out which token a request carries, `carries_iff` says so in terms of the bytes of
the field, and `carries_encode` that every signed token can be carried: its characters are visible
ones, which a header field may hold.
-/
namespace TenantAuth.Bearer

open Outcome

/-! ## The token of a field -/

/-- The first `Authorization` field is the word `Bearer`, a space and the token, which has no space
in it. -/
def Carries (h : Headers) (tok : String) : Prop :=
  ∃ value, h.first? "authorization" = some value ∧
    Headers.visibleText? value = some ("Bearer " ++ tok) ∧ tok ≠ "" ∧ ' ' ∉ tok.toList

/-- A value offers what follows the word `Bearer` and one space, unless that is empty or has a space
in it. -/
theorem tokenOf?_eq_some {value tok : String} :
    tokenOf? value = some tok ↔ value = "Bearer " ++ tok ∧ tok ≠ "" ∧ ' ' ∉ tok.toList := by
  have hscheme : ("Bearer " : String).toList = scheme := rfl
  constructor
  · intro h
    rw [tokenOf?] at h
    split at h
    · next hcond =>
      cases h
      simp only [Bool.and_eq_true, List.isPrefixOf_iff_prefix, Bool.not_eq_true',
        List.isEmpty_eq_false_iff, List.contains_eq_mem, decide_eq_false_iff_not] at hcond
      -- what is left of the value after the word and the space
      obtain ⟨⟨⟨rest, hrest⟩, hne⟩, hspace⟩ := hcond
      have hdrop : value.toList.drop scheme.length = rest := by
        rw [← hrest, List.drop_left]
      rw [hdrop] at hne hspace ⊢
      refine ⟨String.toList_injective ?_, ?_, ?_⟩
      · rw [String.toList_append, hscheme, String.toList_ofList, hrest]
      · intro hempty
        have := congrArg String.toList hempty
        rw [String.toList_ofList] at this
        exact hne this
      · rw [String.toList_ofList]
        exact hspace
    · cases h
  · rintro ⟨rfl, hne, hspace⟩
    have hlist : ("Bearer " ++ tok).toList = scheme ++ tok.toList := by
      rw [String.toList_append, hscheme]
    have hnil : tok.toList ≠ [] := by
      intro hnil
      exact hne (String.toList_injective hnil)
    have hcond : (scheme.isPrefixOf (scheme ++ tok.toList) && !tok.toList.isEmpty
        && !tok.toList.contains ' ') = true := by
      simp only [Bool.and_eq_true, List.isPrefixOf_iff_prefix, Bool.not_eq_true',
        List.isEmpty_eq_false_iff, List.contains_eq_mem, decide_eq_false_iff_not]
      exact ⟨⟨List.prefix_append _ _, hnil⟩, hspace⟩
    rw [tokenOf?, hlist, List.drop_left, if_pos hcond, String.ofList_toList]

/-- The token that is found is the one that the request carries. -/
theorem token_eq_ok {h : Headers} {tok : String} : token h = .ok tok ↔ Carries h tok := by
  -- the words of a field value that is a credential
  have hfield : ∀ {value : Bytes}, (Headers.visibleText? value).bind tokenOf? = some tok ↔
      Headers.visibleText? value = some ("Bearer " ++ tok) ∧ tok ≠ "" ∧ ' ' ∉ tok.toList := by
    intro value
    rw [Option.bind_eq_some_iff]
    constructor
    · rintro ⟨text, htext, htok⟩
      obtain ⟨rfl, hrest⟩ := tokenOf?_eq_some.1 htok
      exact ⟨htext, hrest⟩
    · rintro ⟨htext, hrest⟩
      exact ⟨_, htext, tokenOf?_eq_some.2 ⟨rfl, hrest⟩⟩
  rw [token, Carries]
  cases h.first? "authorization" with
  | none => exact ⟨nofun, fun ⟨_, hvalue, _⟩ => nomatch hvalue⟩
  | some value =>
    simp only [Option.some.injEq, exists_eq_left', ← hfield]
    cases (Headers.visibleText? value).bind tokenOf? with
    | none => exact ⟨nofun, nofun⟩
    | some t => exact ⟨fun ht => by cases ht; rfl, fun ht => by cases ht; rfl⟩

/-- A request is authenticated by the access token that it carries. -/
theorem authenticate_eq_ok {m : TokenManager} {now : Instant} {h : Headers} {p : Principal} :
    authenticate m now h = .ok p ↔ ∃ tok, Carries h tok ∧ m.verify now tok = .ok p := by
  rw [authenticate, bind_eq_ok]
  simp only [token_eq_ok]

/-- A request that carries a token is worth what the token is. -/
theorem authenticate_of_carries {m : TokenManager} {now : Instant} {h : Headers} {tok : String}
    (hcarries : Carries h tok) : authenticate m now h = m.verify now tok := by
  rw [authenticate, token_eq_ok.2 hcarries, ok_bind]

/-! ## The bytes of a field -/

/-- The first `Authorization` field is the word `Bearer`, a space and the token, which is made of
visible ASCII characters and tabs. -/
structure Credential (h : Headers) (tok : String) : Prop where
  field : h.first? "authorization" = some (Text.bytes ("Bearer " ++ tok))
  nonempty : tok ≠ ""
  chars : ∀ c ∈ tok.toList, c = '\t' ∨ '!' ≤ c ∧ c ≤ '~'

/-- The character after the space is the exclamation mark. -/
theorem exclamation_le {c : Char} : '!' ≤ c ↔ ' ' ≤ c ∧ c ≠ ' ' := by
  rw [Text.le_iff_toNat_le, Text.le_iff_toNat_le, Ne, ← Char.toNat_inj]
  show 0x21 ≤ c.toNat ↔ 0x20 ≤ c.toNat ∧ ¬ c.toNat = 0x20
  omega

/-- **Which token a request carries is seen from the bytes of the field.** -/
theorem carries_iff {h : Headers} {tok : String} : Carries h tok ↔ Credential h tok := by
  have hscheme : ∀ c ∈ ("Bearer " : String).toList, c = '\t' ∨ ' ' ≤ c ∧ c ≤ '~' := by simp
  -- a character of the value is one of the word before the token, or of the token
  have hsplit : ∀ c, c ∈ ("Bearer " ++ tok).toList ↔
      c ∈ ("Bearer " : String).toList ∨ c ∈ tok.toList := by
    intro c
    rw [String.toList_append, List.mem_append]
  constructor
  · rintro ⟨value, hvalue, htext, hne, hspace⟩
    obtain ⟨rfl, hchars⟩ := Headers.visibleText?_eq_some.1 htext
    refine ⟨hvalue, hne, fun c hc => ?_⟩
    have hother : c ≠ ' ' := by
      rintro rfl
      exact hspace hc
    exact (hchars c ((hsplit c).2 (.inr hc))).imp_right
      fun h => ⟨exclamation_le.2 ⟨h.1, hother⟩, h.2⟩
  · rintro ⟨hfield, hne, hchars⟩
    refine ⟨_, hfield, Headers.visibleText?_eq_some.2 ⟨rfl, fun c hc => ?_⟩, hne, fun hspace => ?_⟩
    · rcases (hsplit c).1 hc with hc | hc
      · exact hscheme c hc
      · exact (hchars c hc).imp_right fun h => ⟨(exclamation_le.1 h.1).1, h.2⟩
    · exact absurd (hchars ' ' hspace) (by decide)

/-- The first `Authorization` field is the word `Bearer`, a space and the token, which is a word of
visible ASCII characters. -/
structure Offers (h : Headers) (tok : String) : Prop where
  field : h.first? "authorization" = some (Text.bytes ("Bearer " ++ tok))
  nonempty : tok ≠ ""
  visible : ∀ c ∈ tok.toList, '!' ≤ c ∧ c ≤ '~'

/-- A request that offers a token in the usual way carries it. -/
theorem Offers.carries {h : Headers} {tok : String} (ho : Offers h tok) : Carries h tok :=
  carries_iff.2 ⟨ho.field, ho.nonempty, fun c hc => .inr (ho.visible c hc)⟩

/-! ## Signed tokens as credentials -/

/-- The bytes of a signed token are symbols of the alphabet and dots. -/
theorem visible_of_mem_encode {secret : Bytes} {c : TokenClaims} {x : UInt8}
    (hx : x ∈ Text.bytes (SignedToken.encode secret c)) : 0x21 ≤ x ∧ x ≤ 0x7E := by
  -- a segment has only symbols of the alphabet, and each of them is visible
  have hsymbol : ∀ {b : Bytes}, x ∈ Base64.url.encode b → 0x21 ≤ x ∧ x ≤ 0x7E := by
    intro b hb
    obtain ⟨n, hn, rfl⟩ := Base64.exists_symbol_of_mem_encode Base64.url hb
    have each : ∀ k, k < 64 → 0x21 ≤ Base64.url.symbol k ∧ Base64.url.symbol k ≤ 0x7E := by decide
    exact each n hn
  have hdot : 0x21 ≤ SignedToken.dot ∧ SignedToken.dot ≤ 0x7E := by decide
  rw [SignedToken.bytes_encode, SignedToken.message] at hx
  rcases List.mem_append.1 hx with hx | hx
  · rcases List.mem_append.1 hx with hx | hx
    · exact hsymbol hx
    · rcases List.mem_cons.1 hx with rfl | hx
      · exact hdot
      · exact hsymbol hx
  · rcases List.mem_cons.1 hx with rfl | hx
    · exact hdot
    · exact hsymbol hx

theorem encode_ne_empty (secret : Bytes) (c : TokenClaims) : SignedToken.encode secret c ≠ "" := by
  intro hempty
  have hnil : Text.bytes (SignedToken.encode secret c) = [] := congrArg Text.bytes hempty
  have hdot : SignedToken.dot ∈ Text.bytes (SignedToken.encode secret c) := by
    rw [SignedToken.bytes_encode]
    exact List.mem_append_right _ List.mem_cons_self
  rw [hnil] at hdot
  cases hdot

/-- A field made of the word `Bearer` and a signed token offers that token. -/
theorem offers_encode (secret : Bytes) (c : TokenClaims) {h : Headers}
    (hfield : h.first? "authorization"
      = some (Text.bytes ("Bearer " ++ SignedToken.encode secret c))) :
    Offers h (SignedToken.encode secret c) where
  field := hfield
  nonempty := encode_ne_empty secret c
  visible := by
    intro ch hch
    -- a token is ASCII, so its characters are its bytes
    have htoken : SignedToken.encode secret c
        = Text.ofAscii (Text.bytes (SignedToken.encode secret c)) := by
      rw [SignedToken.bytes_encode]
      rfl
    have hascii : ∀ x ∈ Text.bytes (SignedToken.encode secret c), x < 0x80 := fun x hx =>
      UInt8.lt_of_le_of_lt (visible_of_mem_encode hx).2 (by decide)
    rw [htoken] at hch
    obtain ⟨x, hx, hcode⟩ := Text.mem_of_mem_toList_ofAscii hascii hch
    obtain ⟨hlow, hhigh⟩ := visible_of_mem_encode hx
    rw [UInt8.le_iff_toNat_le, ← hcode] at hlow hhigh
    exact ⟨Text.le_iff_toNat_le.2 hlow, Text.le_iff_toNat_le.2 hhigh⟩

/-- **A field made of the word `Bearer` and a signed token carries that token.** -/
theorem carries_encode (secret : Bytes) (c : TokenClaims) {h : Headers}
    (hfield : h.first? "authorization"
      = some (Text.bytes ("Bearer " ++ SignedToken.encode secret c))) :
    Carries h (SignedToken.encode secret c) :=
  (offers_encode secret c hfield).carries

end TenantAuth.Bearer

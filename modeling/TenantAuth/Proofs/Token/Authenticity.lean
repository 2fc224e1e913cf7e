import TenantAuth.Proofs.Base64.Canonical
import TenantAuth.Proofs.Text.Utf8
import TenantAuth.Proofs.Token.Window

/-!
# Only signed strings are recognised

`Genuine` is what a verifier demands of the form of a string: three segments over the alphabet for
URLs, a header that names HS256, and as the last segment the keyed hash of all that stands before
it, in its one spelling. A genuine string falls apart in one way only (`segments_unique`), so that
neither its signature nor its dots can be moved.
-/
namespace TenantAuth

open Outcome

/-! ## Dots -/

theorem Text.bytes_dot (a b : String) :
    bytes (a ++ "." ++ b) = bytes a ++ SignedToken.dot :: bytes b := by
  have hdot : bytes "." = [SignedToken.dot] := by decide
  simp [bytes_append, hdot]

theorem Text.bytes_dotted (a b c : String) :
    bytes (a ++ "." ++ b ++ "." ++ c)
      = bytes a ++ SignedToken.dot :: (bytes b ++ SignedToken.dot :: bytes c) := by
  simp [bytes_dot]

namespace SignedToken

variable {text m s secret : Bytes} {token : String} {c : TokenClaims}

/-- Nothing is left of a text without dots. -/
theorem splitLast_eq_none (hdot : dot ∉ text) : splitLast text = none := by
  have hall : ∀ x ∈ text.reverse, decide (x ≠ dot) = true := by
    intro x hx
    refine decide_eq_true ?_
    rintro rfl
    exact hdot (List.mem_reverse.1 hx)
  have happend : (text.reverse ++ []).takeWhile (· ≠ dot)
      = text.reverse ++ List.takeWhile (· ≠ dot) [] := List.takeWhile_append_of_pos hall
  -- the search for the dot goes through the whole text
  have hself : text.reverse.takeWhile (· ≠ dot) = text.reverse := by
    simpa using happend
  rw [splitLast, hself]
  simp

theorem splitLast_eq_some (h : splitLast text = some (m, s)) : text = m ++ dot :: s := by
  by_cases hdot : dot ∈ text
  · -- seen from the end, the first dot is the last one
    obtain ⟨after, before, htext, hafter⟩ := List.eq_append_cons_of_mem (List.mem_reverse.2 hdot)
    have hsplit : text = before.reverse ++ dot :: after.reverse := by
      rw [← List.reverse_reverse text, htext]
      simp
    have hs : dot ∉ after.reverse := by simpa using hafter
    rw [hsplit, splitLast_append hs] at h
    cases h
    exact hsplit
  · rw [splitLast_eq_none hdot] at h
    cases h

theorem segments_eq_some {header payload mark : Bytes}
    (h : segments text = some (header, payload, mark)) :
    text = header ++ dot :: (payload ++ dot :: mark) := by
  unfold segments at h
  obtain ⟨⟨before, mark'⟩, hlast, h⟩ := Option.bind_eq_some_iff.1 h
  obtain ⟨⟨header', payload'⟩, hfirst, h⟩ := Option.bind_eq_some_iff.1 h
  cases h
  rw [splitLast_eq_some hlast, splitLast_eq_some hfirst]
  simp

/-- A text has one first dot. -/
theorem firstDot_unique {a a' b b' : Bytes} (ha : dot ∉ a) (ha' : dot ∉ a')
    (heq : a ++ dot :: b = a' ++ dot :: b') : a = a' ∧ b = b' := by
  have hsame : a = a' := by
    rw [← takeWhile_dot ha b, heq, takeWhile_dot ha']
  subst hsame
  simpa using heq

/-- A text whose first two segments have no dots falls apart in one way only. -/
theorem segments_unique {h h' p p' s s' : Bytes} (hh : dot ∉ h) (hh' : dot ∉ h') (hp : dot ∉ p)
    (hp' : dot ∉ p') (heq : h ++ dot :: (p ++ dot :: s) = h' ++ dot :: (p' ++ dot :: s')) :
    h = h' ∧ p = p' ∧ s = s' := by
  obtain ⟨rfl, hrest⟩ := firstDot_unique hh hh' heq
  obtain ⟨rfl, rfl⟩ := firstDot_unique hp hp' hrest
  exact ⟨rfl, rfl, rfl⟩

/-! ## Genuine strings -/

/-- Three segments that make up a string signed with the secret. -/
structure Genuine (secret : Bytes) (header payload mark : String) : Prop where
  header_over : Base64.url.Over (Text.bytes header)
  payload_over : Base64.url.Over (Text.bytes payload)
  mark_over : Base64.url.Over (Text.bytes mark)
  header_alg : ∃ h, Base64.url.decode (Text.bytes header) = .ok h ∧
    Json.Reader.whole TokenHeader.reader h = .ok .hs256
  mark_eq : Text.bytes mark
    = Base64.url.encode (Sha256.hmac secret (Text.bytes (header ++ "." ++ payload)))

theorem bytesOf_eq_ok {segment b : Bytes} :
    bytesOf segment = .ok b ↔ Base64.url.decode segment = .ok b :=
  mapError_eq_ok

/-- What is decoded was signed under the secret. -/
theorem genuine_of_decode (h : decode secret token = .ok c) :
    ∃ header payload mark, token = header ++ "." ++ payload ++ "." ++ mark ∧
      Genuine secret header payload mark := by
  obtain ⟨header, payload, hsegments, ⟨b, hb, halg⟩, hclaims⟩ := decode_eq_ok.1 h
  obtain ⟨b', hb', -⟩ := claimsOf_eq_ok.1 hclaims
  rw [bytesOf_eq_ok] at hb hb'
  -- what decodes is over the alphabet, and so the segments are ASCII texts
  have hover : Base64.url.Over header := Base64.url_canonical.over_of_decode hb
  have hover' : Base64.url.Over payload := Base64.url_canonical.over_of_decode hb'
  have hsigned : Base64.url.Over (signature secret (header ++ dot :: payload)) :=
    Base64.over_encode _ _
  have hheader := Text.bytes_ofAscii fun x hx => hover.lt hx
  have hpayload := Text.bytes_ofAscii fun x hx => hover'.lt hx
  have hmark := Text.bytes_ofAscii fun x hx => hsigned.lt hx
  refine ⟨Text.ofAscii header, Text.ofAscii payload, Text.ofAscii _, Text.bytes_injective ?_,
    by rwa [hheader], by rwa [hpayload], by rwa [hmark], ⟨b, by rwa [hheader], ?_⟩, ?_⟩
  · rw [Text.bytes_dotted, hheader, hpayload, hmark]
    exact segments_eq_some hsegments
  · exact mapError_eq_ok.1 halg
  · rw [Text.bytes_dot, hheader, hpayload, hmark]
    rfl

variable {header payload mark t : String}

/-- The same text before the last dot leaves room for one signature. -/
theorem Genuine.mark_unique (hgenuine : Genuine secret header payload mark)
    (h : decode secret (header ++ "." ++ payload ++ "." ++ t) = .ok c) : t = mark := by
  obtain ⟨header', payload', mark', heq, hgenuine'⟩ := genuine_of_decode h
  have hbytes := congrArg Text.bytes heq
  rw [Text.bytes_dotted, Text.bytes_dotted] at hbytes
  obtain ⟨hh, hp, ht⟩ := segments_unique hgenuine.header_over.dot_not_mem
    hgenuine'.header_over.dot_not_mem hgenuine.payload_over.dot_not_mem
    hgenuine'.payload_over.dot_not_mem hbytes
  refine Text.bytes_injective ?_
  rw [ht, hgenuine'.mark_eq, hgenuine.mark_eq, Text.bytes_dot, Text.bytes_dot, hh, hp]

/-- A token that was signed with another secret is genuine only by a coincidence of the keyed
hash. -/
theorem Genuine.hmac_eq {secret' : Bytes} (hgenuine : Genuine secret header payload mark)
    (h : header ++ "." ++ payload ++ "." ++ mark = encode secret' c) :
    Sha256.hmac secret (Text.bytes (header ++ "." ++ payload))
      = Sha256.hmac secret' (Text.bytes (header ++ "." ++ payload)) := by
  have hbytes := congrArg Text.bytes h
  rw [Text.bytes_dotted, bytes_encode, message, List.append_assoc, List.cons_append] at hbytes
  obtain ⟨hh, hp, hmark⟩ := segments_unique hgenuine.header_over.dot_not_mem
    (Base64.dot_not_mem_url_encode _) hgenuine.payload_over.dot_not_mem
    (Base64.dot_not_mem_url_encode _) hbytes
  rw [← hh, ← hp, ← Text.bytes_dot, hgenuine.mark_eq] at hmark
  exact Base64.url_canonical.encode_injective hmark

end SignedToken

/-! ## What a manager recognises -/

namespace TokenManager

variable {m : TokenManager} {token : String}

/-- The manager has handed out the token. -/
inductive Mints (m : TokenManager) (token : String) : Prop where
  | access {now : Instant} {userId tenantId email : String} {roles : List String}
      (h : m.issueAccess now userId tenantId email roles = .ok token)
  | refresh {now : Instant} {userId tenantId : String}
      (h : m.issueRefresh now userId tenantId = .ok token)
  | exchange {now : Instant} {r : String} (h : m.refresh now r = .ok token)

theorem Mints.eq_encode (h : m.Mints token) : ∃ c, token = SignedToken.encode m.secret c := by
  -- whichever way a token is made, it is signed under the secret of the manager
  have hsign : ∀ {now userId tenantId email roles kind},
      m.sign now userId tenantId email roles kind = .ok token →
        ∃ c, token = SignedToken.encode m.secret c := by
    intro now userId tenantId email roles kind h
    obtain ⟨expiry, -, htoken⟩ := sign_eq_ok.1 h
    exact ⟨_, htoken⟩
  cases h with
  | access h => exact hsign h
  | refresh h => exact hsign h
  | exchange h =>
    obtain ⟨c, -, h⟩ := refresh_eq_ok.1 h
    exact hsign h

/-- **Nothing but what is signed with the secret is recognised.** Such a string is three segments
with the keyed hash of the first two as the last. Any other text in place of the last segment is
refused, so that no second string shares the first two; and a token of another manager passes only
where both secrets give the same hash. -/
theorem recognised_is_genuine (m : TokenManager) (now : Instant) (kind : TokenKind) (token : String)
    (h : Recognised (m.verifyKind now token kind)) :
    ∃ header payload mark, token = header ++ "." ++ payload ++ "." ++ mark ∧
      SignedToken.Genuine m.secret header payload mark ∧
      (∀ t now' kind', Recognised (m.verifyKind now' (header ++ "." ++ payload ++ "." ++ t) kind') →
        header ++ "." ++ payload ++ "." ++ t = token) ∧
      (∀ t now' kind', t ≠ mark →
        m.verifyKind now' (header ++ "." ++ payload ++ "." ++ t) kind' = .error .invalidToken) ∧
      ∀ m' : TokenManager, m'.Mints token →
        Sha256.hmac m.secret (Text.bytes (header ++ "." ++ payload))
          = Sha256.hmac m'.secret (Text.bytes (header ++ "." ++ payload)) := by
  obtain ⟨c, hclaims, -⟩ := claims_of_recognised h
  obtain ⟨header, payload, mark, rfl, hgenuine⟩ :=
    SignedToken.genuine_of_decode (claims_eq_ok.1 hclaims).1
  -- the mark is a function of what comes before it
  have hunique : ∀ {t kind' c'},
      m.claims (header ++ "." ++ payload ++ "." ++ t) kind' = .ok c' → t = mark := by
    intro t kind' c' hc'
    exact hgenuine.mark_unique (claims_eq_ok.1 hc').1
  refine ⟨header, payload, mark, rfl, hgenuine, ?_, ?_, ?_⟩
  · intro t now' kind' ht
    obtain ⟨c', hc', -⟩ := claims_of_recognised ht
    rw [hunique hc']
  · intro t now' kind' hne
    cases hc' : m.claims (header ++ "." ++ payload ++ "." ++ t) kind' with
    | error r => exact verifyKind_of_error hc' now'
    | ok c' => exact absurd (hunique hc') hne
  · intro m' hmints
    obtain ⟨c', hc'⟩ := hmints.eq_encode
    exact hgenuine.hmac_eq hc'

theorem recognised_is_genuine_hourly :
    ∃ header payload mark,
      Recognised (hourly.verifyKind epoch (header ++ "." ++ payload ++ "." ++ mark) .refresh) ∧
      SignedToken.Genuine hourly.secret header payload mark ∧
      hourly.verifyKind epoch (header ++ "." ++ payload ++ "." ++ ".") .refresh
        = .error .invalidToken := by
  have hok := verifyKind_handMade epoch ⟨3600, by decide⟩ (by decide) (by decide)
  have hrecognised : Recognised (hourly.verifyKind epoch
      (SignedToken.encode hourly.secret (handMade epoch ⟨3600, by decide⟩)) .refresh) :=
    .inl ⟨_, hok⟩
  obtain ⟨header, payload, mark, htoken, hgenuine, -, hother, -⟩ :=
    recognised_is_genuine hourly epoch .refresh _ hrecognised
  rw [htoken] at hrecognised
  refine ⟨header, payload, mark, hrecognised, hgenuine, hother "." epoch .refresh ?_⟩
  -- a dot is no symbol of the alphabet
  rintro rfl
  exact hgenuine.mark_over.dot_not_mem (by decide)

end TokenManager

end TenantAuth

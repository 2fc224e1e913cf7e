import TenantAuth.Proofs.Json.Skipping
import TenantAuth.Token.Signed

/-!
# Reading back the parts of a token

The header and the payload of a signed token read back: the header as its algorithm, the payload as
the claims it was written from, and a second time as the registered claims among them.
-/
namespace TenantAuth

open Json (objectText intText arrayText)
open Json.Reader

/-! ## Claims -/

theorem itemTexts_map_str (ss : List String) :
    Json.itemTexts (ss.map Json.str) = ss.map Json.stringText := by
  rw [Json.itemTexts_eq_map, List.map_map]
  exact List.map_congr_left fun s _ => by rw [Function.comp_apply, Json.text]

namespace TokenClaims

/-- The members of a payload with the texts of their values. -/
def memberTexts (c : TokenClaims) : List (String × Bytes) :=
  [("user_id", Json.stringText c.userId), ("tenant_id", Json.stringText c.tenantId),
    ("email", Json.stringText c.email), ("roles", arrayText (c.roles.map Json.stringText)),
    ("typ", Json.stringText c.kind.name), ("iat", intText c.issuedAt.seconds),
    ("nbf", intText c.notBefore.seconds), ("exp", intText c.expiry.seconds)]

theorem text_toJson (c : TokenClaims) : c.toJson.text = objectText c.memberTexts := by
  simp only [toJson, Json.text, Json.memberTexts, Principal.textsJson, itemTexts_map_str,
    memberTexts]

theorem reads_instant (t : Instant) : Reads instant (intText t.seconds) t := by
  refine Reads.bind (reads_int64 t.inRange) fun c => ?_
  rw [Instant.ofInt?_eq_some_iff.2 rfl]
  rfl

theorem reads_kind (k : TokenKind) : Reads TokenKind.reader (Json.stringText k.name) k := by
  refine reads_variant ?_
  cases k with
  | access => rfl
  | refresh => rfl

theorem reads_texts (ss : List String) :
    Reads (list string) (arrayText (ss.map Json.stringText)) ss :=
  reads_list ss (fun s _ => reads_string s) (fun s _ => starts_stringText s)

/-- The members of a payload fill in one claim after the other. -/
theorem folds_member (c : TokenClaims) :
    Folds Draft.member .empty c.memberTexts
      ⟨some c.userId, some c.tenantId, some c.email, some c.roles, some c.kind, some c.issuedAt,
        some c.notBefore, some c.expiry⟩ := by
  refine .cons (((reads_string c.userId).once "user_id").bind fun _ => rfl) ?_
  refine .cons (((reads_string c.tenantId).once "tenant_id").bind fun _ => rfl) ?_
  refine .cons (((reads_string c.email).once "email").bind fun _ => rfl) ?_
  refine .cons (((reads_texts c.roles).once "roles").bind fun _ => rfl) ?_
  refine .cons (((reads_kind c.kind).once "typ").bind fun _ => rfl) ?_
  refine .cons (((reads_instant c.issuedAt).once "iat").bind fun _ => rfl) ?_
  refine .cons (((reads_instant c.notBefore).once "nbf").bind fun _ => rfl) ?_
  exact .cons (((reads_instant c.expiry).once "exp").bind fun _ => rfl) (.nil _)

/-- **A payload reads back as the claims it was written from.** -/
theorem reads_reader (c : TokenClaims) : Reads reader c.toJson.text c := by
  rw [text_toJson]
  exact reads_record "struct TokenClaims" _ c.folds_member fun _ => rfl

end TokenClaims

/-! ## Headers -/

namespace TokenHeader

theorem reads_reader : Reads reader toJson.text .hs256 := by
  have htext : toJson.text
      = objectText [("typ", Json.stringText "JWT"), ("alg", Json.stringText "HS256")] := rfl
  have htyp : Reads (Draft.member ⟨[], none⟩ "typ") (0x3A :: Json.stringText "JWT")
      ⟨["typ"], none⟩ := by
    have hread : Reads memberReader?.text (Json.stringText "JWT") () :=
      (Reads.optional (reads_string "JWT") rfl rfl (by decide)).bind fun _ => rfl
    exact (hread.memberValue "typ").bind fun _ => rfl
  have halg : Reads (Draft.member ⟨["typ"], none⟩ "alg") (0x3A :: Json.stringText "HS256")
      ⟨["typ"], some .hs256⟩ :=
    ((reads_variant rfl).once "alg").bind fun _ => rfl
  rw [htext]
  exact reads_record "struct Header" _ (.cons htyp (.cons halg (.nil _))) fun _ => rfl

end TokenHeader

/-! ## Registered claims -/

namespace SignedToken.Registered

theorem reads_moment {n : Nat} (hn : n < 0x10000000000000000) :
    Reads moment (intText n) (some n) :=
  (reads_value_ofNat hn 126).attempt.bind fun _ => rfl

theorem reads_nbf {n : Nat} (hn : n < 0x10000000000000000) :
    Reads (Draft.member ⟨[], none, none⟩ "nbf") (0x3A :: intText n) ⟨["nbf"], none, some n⟩ := by
  have hread : Reads (do return { (⟨[], none, none⟩ : Draft) with notBefore := ← moment })
      (intText n) ⟨[], none, some n⟩ := (reads_moment hn).bind fun _ => rfl
  exact (hread.memberValue "nbf").bind fun _ => rfl

theorem reads_exp {n k : Nat} (hn : n < 0x10000000000000000) :
    Reads (Draft.member ⟨["nbf"], none, some k⟩ "exp") (0x3A :: intText n)
      ⟨["exp", "nbf"], some n, some k⟩ := by
  have hread : Reads (do return { (⟨["nbf"], none, some k⟩ : Draft) with expiry := ← moment })
      (intText n) ⟨["nbf"], some n, some k⟩ := (reads_moment hn).bind fun _ => rfl
  exact (hread.memberValue "exp").bind fun _ => rfl

/-- A member that is not registered changes nothing. -/
theorem reads_skipMember {d : Draft} {name : String} {t : Bytes} (h : Reads skip t ())
    (hname : d.member name = (do skipMember name; return d)) :
    Reads (d.member name) (0x3A :: t) d := by
  rw [hname]
  exact (h.memberValue name).bind fun _ => rfl

/-- **A payload is read a second time as its two registered instants,** where they are not
negative. -/
theorem reads_reader (c : TokenClaims) {nbf exp : Nat} (hnbf : c.notBefore.seconds = nbf)
    (hexp : c.expiry.seconds = exp) :
    Reads reader c.toJson.text ⟨["exp", "nbf"], some exp, some nbf⟩ := by
  have hlt : ∀ {t : Instant} {n : Nat}, t.seconds = n → n < 0x10000000000000000 := by
    intro t n h
    have := t.inRange.2
    unfold int64Max at this
    omega
  have hfolds : Folds Draft.member ⟨[], none, none⟩ c.memberTexts
      ⟨["exp", "nbf"], some exp, some nbf⟩ := by
    rw [TokenClaims.memberTexts, hnbf, hexp]
    refine .cons (reads_skipMember (reads_skip_string _) rfl) ?_
    refine .cons (reads_skipMember (reads_skip_string _) rfl) ?_
    refine .cons (reads_skipMember (reads_skip_string _) rfl) ?_
    refine .cons (reads_skipMember (reads_skip_strings _) rfl) ?_
    refine .cons (reads_skipMember (reads_skip_string _) rfl) ?_
    refine .cons (reads_skipMember (reads_skip_int _) rfl) ?_
    exact .cons (reads_nbf (hlt hnbf)) (.cons (reads_exp (hlt hexp)) (.nil _))
  have hfinish : ∀ e, (pure : Draft → Json.Reader Draft) ⟨["exp", "nbf"], some exp, some nbf⟩ e
      = (.ok ⟨["exp", "nbf"], some exp, some nbf⟩, e) := fun _ => rfl
  have hread := reads_record "struct ClaimsForValidation"
    (do
      let expiry ← itemOr 0 none moment
      let notBefore ← itemOr 1 none moment
      item 2 "struct ClaimsForValidation with 5 elements" looseText
      item 3 "struct ClaimsForValidation with 5 elements" looseValue
      item 4 "struct ClaimsForValidation with 5 elements" looseValue
      return ⟨[], expiry, notBefore⟩) hfolds hfinish
  rw [bind_pure] at hread
  rw [TokenClaims.text_toJson]
  exact hread

end SignedToken.Registered

end TenantAuth

import TenantAuth.Proofs.Json.Outline
import TenantAuth.Proofs.Token.Decode

/-!
# Registered claims

The payload of a token is read twice: for the claims, and for the registered ones among them. The
second reader gives up on values that it does not take, in the middle of them, and goes on from
there, so that it could see a start where none was given. `notBefore_nonneg` says that it never
does: whatever it sees while it is lost, it does not find the end of the payload.
-/
namespace TenantAuth

open Json.Reader

/-! ## Numbers, as integers and as values -/

namespace Json.Reader

variable {α : Type} {c d : Cursor} {n : Int}

/-- A number from its sign on. -/
def numeral : Reader Number := do
  match ← peekToken with
  | none => failNext .eofValue
  | some b =>
    if b = 0x2D then do advance; number true
    else number false

theorem numeral_apply {b : UInt8} {t : Bytes} {o : Nat} (htoken : atToken c = ⟨b :: t, o⟩) :
    numeral c = if b = 0x2D then number true ⟨t, o + 1⟩ else number false ⟨b :: t, o⟩ := by
  rw [numeral, bind_peekToken, htoken]
  dsimp only [List.head?_cons]
  by_cases hminus : b = 0x2D
  · rw [if_pos hminus, if_pos hminus]
    exact bind_ok (advance_cons b t o)
  · rw [if_neg hminus, if_neg hminus]

/-- An integer that is read stands there as a numeral. -/
theorem integer_eq_ok {lo hi : Int} {expected : String}
    (h : integer lo hi expected c = (.ok n, d)) : numeral c = (.ok (.int n), d) := by
  obtain ⟨b, t, o, htoken, hinner⟩ := peekToken_eq_ok (refuses_failNext _) (located_eq_ok h)
  dsimp only at hinner
  -- an integer that is read began as a number does
  by_cases hminus : b = 0x2D
  · rw [if_pos hminus, bind_ok (advance_cons b t o)] at hinner
    subst hminus
    obtain ⟨x, e, hx, hinner⟩ := bind_eq_ok hinner
    obtain ⟨rfl, rfl⟩ := checked_eq_ok hinner
    rw [numeral_apply htoken, if_pos rfl, hx]
  rw [if_neg hminus] at hinner
  split at hinner
  · obtain ⟨x, e, hx, hinner⟩ := bind_eq_ok hinner
    obtain ⟨rfl, rfl⟩ := checked_eq_ok hinner
    rw [numeral_apply htoken, if_neg hminus, hx]
  · exact absurd hinner wrongType_ne_ok

theorem valueWith_eq_int {put : String → Json → List (String × Json) → List (String × Json)}
    {depth : Nat} (h : valueWith put depth c = (.ok (.int n), d)) :
    numeral c = (.ok (.int n), d) := by
  cases depth with
  | zero => cases h
  | succ depth =>
    have hnumber : ∀ {x : Number} {e : Cursor},
        (pure x.toJson : Reader Json) e = (.ok (.int n), d) → x = .int n ∧ e = d := by
      intro x e hx
      cases x with
      | float x => cases hx
      | int n' =>
        cases hx
        exact ⟨rfl, rfl⟩
    -- what begins otherwise gives a value that is no integer
    have hword : ∀ {w : Bytes} {v : Json} {e : Cursor}, (∀ i, v ≠ .int i) →
        (do advance; ident w; return v : Reader Json) e ≠ (.ok (.int n), d) := by
      intro w v e hv h
      obtain ⟨_, e, -, h⟩ := bind_eq_ok h
      obtain ⟨_, e, -, h⟩ := bind_eq_ok h
      cases h
      exact hv n rfl
    obtain ⟨b, t, o, htoken, h⟩ := peekToken_eq_ok (refuses_failNext _) h
    dsimp only at h
    split at h
    · exact absurd h (hword nofun)
    split at h
    · exact absurd h (hword nofun)
    split at h
    · exact absurd h (hword nofun)
    by_cases hminus : b = 0x2D
    · rw [if_pos hminus, bind_ok (advance_cons b t o)] at h
      subst hminus
      obtain ⟨x, e, hx, h⟩ := bind_eq_ok h
      obtain ⟨rfl, rfl⟩ := hnumber h
      rw [numeral_apply htoken, if_pos rfl, hx]
    rw [if_neg hminus] at h
    split at h
    · obtain ⟨x, e, hx, h⟩ := bind_eq_ok h
      obtain ⟨rfl, rfl⟩ := hnumber h
      rw [numeral_apply htoken, if_neg hminus, hx]
    split at h
    · rw [bind_ok (advance_cons b t o)] at h
      obtain ⟨s, e, -, h⟩ := bind_eq_ok h
      cases h
    split at h
    · split at h
      · cases h
      · rw [bind_ok (advance_cons b t o)] at h
        obtain ⟨vs, e, -, h⟩ := bind_eq_ok h
        cases h
    split at h
    · split at h
      · cases h
      · rw [bind_ok (advance_cons b t o)] at h
        obtain ⟨ms, e, -, h⟩ := bind_eq_ok h
        cases h
    · cases h

end Json.Reader

/-! ## The claims of an object -/

namespace TokenClaims

variable {s s' : Draft} {name : String} {c d : Json.Cursor} {us : List Json.Cursor} {first : Bool}

theorem instant_eq_ok {t : Instant} (h : instant c = (.ok t, d)) :
    numeral c = (.ok (.int t.seconds), d) := by
  obtain ⟨n, e, hn, h⟩ := bind_eq_ok h
  cases ht : Instant.ofInt? n with
  | none =>
    rw [ht] at h
    cases h
  | some t' =>
    rw [ht] at h
    cases h
    rw [Instant.ofInt?_eq_some_iff.1 ht]
    exact integer_eq_ok hn

theorem tracks_instant : Tracks 0 instant (.out []) (.out []) := by
  refine (tracks_integer _ _ _).bind fun n => ?_
  cases Instant.ofInt? n with
  | none => exact (refuses_failData _).tracks resting_out
  | some t => exact tracks_pure t

/-- No member is left before its end. -/
theorem Draft.keeps_member (s : Draft) (name : String) : Keeps (s.member name) := by
  unfold Draft.member
  -- each field is read whole, and an unknown member is skipped whole
  split
  · exact .bind_pure (keeps_once fun h => tracks_string _ |>.ok h)
  · exact .bind_pure (keeps_once fun h => tracks_string _ |>.ok h)
  · exact .bind_pure (keeps_once fun h => tracks_string _ |>.ok h)
  · exact .bind_pure (keeps_once fun h => tracks_list (fun _ => tracks_string) _ |>.ok h)
  · exact .bind_pure (keeps_once goes_variant)
  · exact .bind_pure (keeps_once fun h => tracks_instant _ |>.ok h)
  · exact .bind_pure (keeps_once fun h => tracks_instant _ |>.ok h)
  · exact .bind_pure (keeps_once fun h => tracks_instant _ |>.ok h)
  · exact .bind_pure (keeps_memberValue goes_skip)

/-- Only the start is read as the start, and only once. -/
theorem Draft.member_eq_ok (h : s.member name c = (.ok s', d)) :
    (name ≠ "nbf" ∧ s'.notBefore = s.notBefore) ∨
      name = "nbf" ∧ s.notBefore = none ∧
        ∃ t, s'.notBefore = some t ∧ memberValue name instant c = (.ok t, d) := by
  by_cases hname : name = "nbf"
  · subst hname
    obtain ⟨slot, e, honce, h⟩ := bind_eq_ok h
    cases h
    obtain ⟨hnone, t, rfl, ht⟩ := once_eq_ok honce
    exact .inr ⟨rfl, hnone, t, rfl, ht⟩
  · refine .inl ⟨hname, ?_⟩
    -- the reader is named, so that the cases of the name do not unfold it
    generalize hr : s.member name = r at h
    unfold Draft.member at hr
    split at hr
    all_goals
      subst hr
      obtain ⟨a, e, -, h⟩ := bind_eq_ok h
      cases h
      first
        | rfl
        | exact absurd rfl hname

/-- Wherever a member is called the start, the start of the claims stands. -/
theorem Draft.notBefore_visits (h : Visits Draft.member first s c us s' d) :
    (∀ t, s.notBefore = some t → s'.notBefore = some t) ∧
      ∀ u ∈ us, ∀ e, stringText u = (.ok "nbf", e) →
        ∃ t e', s'.notBefore = some t ∧ memberValue "nbf" instant e = (.ok t, e') := by
  induction h with
  | done hlast => exact ⟨fun t ht => ht, nofun⟩
  | next hmore hname hmember hrest ih =>
    rcases Draft.member_eq_ok hmember with ⟨hne, hsame⟩ | ⟨rfl, hnone, t, hsome, ht⟩
    · refine ⟨fun t ht => ih.1 t (hsame.trans ht), fun u hu e he => ?_⟩
      rcases List.mem_cons.1 hu with rfl | hu
      · cases hname.symm.trans he
        exact absurd rfl hne
      · exact ih.2 u hu e he
    -- the start is read here, so that none was read before and none is read again
    · refine ⟨fun t' ht' => ?_, fun u hu e he => ?_⟩
      · rw [hnone] at ht'
        cases ht'
      · rcases List.mem_cons.1 hu with rfl | hu
        · cases hname.symm.trans he
          exact ⟨t, _, ih.1 t hsome, ht⟩
        · exact ih.2 u hu e he

theorem required_eq_ok {α : Type} {slot : Option α} {a : α}
    (h : required name slot c = (.ok a, d)) : slot = some a ∧ d = c := by
  cases slot with
  | none => cases h
  | some a' =>
    cases h
    exact ⟨rfl, rfl⟩

/-- Claims that are complete have the start that was read. -/
theorem Draft.finish_eq_ok {claims : TokenClaims} (h : s.finish c = (.ok claims, d)) :
    s.notBefore = some claims.notBefore ∧ d = c := by
  -- the fields without a default are required one after the other, and nothing is read for them
  obtain ⟨_, c₁, h₁, h⟩ := bind_eq_ok h
  obtain ⟨_, c₂, h₂, h⟩ := bind_eq_ok h
  obtain ⟨_, c₃, h₃, h⟩ := bind_eq_ok h
  obtain ⟨_, c₄, h₄, h⟩ := bind_eq_ok h
  obtain ⟨t, c₅, hstart, h⟩ := bind_eq_ok h
  obtain ⟨_, c₆, hend, h⟩ := bind_eq_ok h
  cases h
  obtain ⟨hsome, rfl⟩ := required_eq_ok hstart
  refine ⟨hsome, ?_⟩
  rw [(required_eq_ok hend).2, (required_eq_ok h₄).2, (required_eq_ok h₃).2, (required_eq_ok h₂).2,
    (required_eq_ok h₁).2]

end TokenClaims

/-! ## The registered claims of an object -/

namespace SignedToken.Registered

variable {s s' : Draft} {name : String} {c d : Json.Cursor} {us : List Json.Cursor} {first : Bool}

theorem leaves_moment : Leaves moment := by
  refine Leaves.bind (leaves_attempt (tracks_valueWith _ _)) fun v => ?_
  split
  · exact stays_pure _
  · exact stays_pure _

theorem leaves_looseText : Leaves looseText :=
  Leaves.bind (leaves_attempt (tracks_optional tracks_string)) fun _ => stays_pure _

theorem leaves_looseValue : Leaves looseValue :=
  Leaves.bind (leaves_attempt (tracks_valueWith _ _)) fun _ => stays_pure _

/-- A registered member, which may be given once. -/
def Draft.fresh (s : Draft) (name : String) (read : Json.Reader Draft) : Json.Reader Draft :=
  if name ∈ s.seen then failData (.duplicateField name)
  else do
    let s' ← memberValue name read
    return { s' with seen := name :: s'.seen }

theorem Draft.member_eq (s : Draft) (name : String) : s.member name =
    match name with
    | "exp" => s.fresh name do return { s with expiry := ← moment }
    | "nbf" => s.fresh name do return { s with notBefore := ← moment }
    | "sub" => s.fresh name do looseText; return s
    | "iss" => s.fresh name do looseValue; return s
    | "aud" => s.fresh name do looseValue; return s
    | _ => do
      skipMember name
      return s := rfl

theorem Draft.follows_fresh {read : Json.Reader Draft} (hread : Leaves read) :
    Follows (s.fresh name read) := by
  rw [fresh]
  split
  · intro a c d h
    cases h
  · exact .bind_pure (follows_memberValue hread)

/-- A member is passed over, or the reader is lost in it. -/
theorem Draft.follows_member (s : Draft) (name : String) : Follows (s.member name) := by
  rw [member_eq]
  split
  · exact follows_fresh (leaves_moment.bind fun _ => stays_pure _)
  · exact follows_fresh (leaves_moment.bind fun _ => stays_pure _)
  · exact follows_fresh (leaves_looseText.bind fun _ => stays_pure _)
  · exact follows_fresh (leaves_looseValue.bind fun _ => stays_pure _)
  · exact follows_fresh (leaves_looseValue.bind fun _ => stays_pure _)
  · exact .bind_pure (follows_memberValue leaves_skip)

theorem Draft.fresh_eq_ok {α : Type} {x : Json.Reader α} {F : α → Draft}
    (h : s.fresh name (do return F (← x)) c = (.ok s', d)) :
    ∃ a, s'.notBefore = (F a).notBefore ∧ memberValue name x c = (.ok a, d) := by
  rw [fresh] at h
  by_cases hseen : name ∈ s.seen
  · rw [if_pos hseen] at h
    cases h
  · rw [if_neg hseen] at h
    obtain ⟨s₁, e, hvalue, h⟩ := bind_eq_ok h
    cases h
    obtain ⟨a, rfl, ha⟩ := memberValue_eq_ok hvalue
    exact ⟨a, rfl, ha⟩

/-- A start that is noted was read at a member called the start. -/
theorem Draft.member_eq_ok (h : s.member name c = (.ok s', d)) :
    s'.notBefore = s.notBefore ∨
      name = "nbf" ∧ memberValue name moment c = (.ok s'.notBefore, d) := by
  generalize hr : s.member name = r at h
  rw [member_eq] at hr
  split at hr
  · subst hr
    obtain ⟨a, hsame, -⟩ := fresh_eq_ok h
    exact .inl hsame
  · subst hr
    obtain ⟨a, hstart, ha⟩ := fresh_eq_ok h
    refine .inr ⟨rfl, ?_⟩
    rw [hstart]
    exact ha
  · subst hr
    obtain ⟨a, hsame, -⟩ := fresh_eq_ok h
    exact .inl hsame
  · subst hr
    obtain ⟨a, hsame, -⟩ := fresh_eq_ok h
    exact .inl hsame
  · subst hr
    obtain ⟨a, hsame, -⟩ := fresh_eq_ok h
    exact .inl hsame
  · subst hr
    obtain ⟨_, e, -, h⟩ := bind_eq_ok h
    cases h
    exact .inl rfl

/-- No registered claim is called by what may stand outside the strings. -/
theorem Draft.member_of_good {t : Bytes} (hgood : Good (.out []) (Text.bytes name ++ t)) :
    s.member name = (do
      skipMember name
      return s) := by
  rw [member_eq]
  split
  · exact absurd hgood (id : ¬ False)
  · exact absurd hgood (id : ¬ False)
  · exact absurd hgood (id : ¬ False)
  · exact absurd hgood (id : ¬ False)
  · exact absurd hgood (id : ¬ False)
  · rfl

/-- A reader that is lost stays lost from one member to the next. -/
theorem Draft.astray_member {t : Bytes} {o : Nat} {c₁ c₂ : Json.Cursor}
    (hmore : hasMember first c = (.ok true, ⟨0x22 :: t, o⟩))
    (hname : Json.Reader.stringText ⟨t, o + 1⟩ = (.ok name, c₁))
    (hmember : s.member name c₁ = (.ok s', c₂)) (h : Astray c) : Astray c₂ := by
  have hstart :
      Goes (.out []) 1 c (.out []) 1 ⟨0x22 :: t, o⟩ := tracks_hasMember first _ |>.ok hmore
  have hstring : Goes .str 1 ⟨t, o + 1⟩ (.out []) 1 c₁ := tracks_stringText _ |>.ok hname
  -- the reader goes on to what it takes for the next name
  have hgo : Goes (.out []) 1 c (.out []) 1 c₁ := (hstart.trans (goes_quote t o)).trans hstring
  rcases h with hgood | ⟨k, us, houtline⟩
  · -- the quote before the name closes a string, so that the name is read from outside the strings
    have hinside : Good (.out []) t := good_unquote.1 (hstart.good_str hgood)
    obtain ⟨t', ht'⟩ := stringText_of_good hname hinside
    rw [member_of_good ht'] at hmember
    obtain ⟨_, e, hskip, hpure⟩ := bind_eq_ok hmember
    cases hpure
    exact .inl ((hgo.trans (goes_skipMember hskip)).good_str hgood)
  · rw [Nat.add_comm] at houtline
    rcases s.follows_member name hmember ((hgo.outline_iff k).1 houtline) with hnext | hastray
    · rw [Nat.add_comm] at hnext
      exact .inr ⟨k, us, hnext⟩
    · exact hastray

/-- **A reader that is lost stays lost to the end.** -/
theorem Draft.astray_visits (h : Visits Draft.member first s c us s' d) (hastray : Astray c) :
    Astray d := by
  induction h with
  | @done first s c d hlast =>
    obtain ⟨-, rfl⟩ | ⟨htrue, -⟩ := hasMember_eq_ok hlast
    · rcases hastray with hgood | ⟨k, us, houtline⟩
      · exact .inl ((goes_atToken (k := 0) c).good_str hgood)
      · exact .inr ⟨k, us, (outline_atToken c).1 houtline⟩
    · cases htrue
  | next hmore hname hmember _ ih => exact ih (astray_member hmore hname hmember hastray)

/-- **A start that is noted stands where the outline of the record has a member.** -/
theorem Draft.notBefore_visits (h : Visits Draft.member first s c us s' d) {e e' : Json.Cursor}
    (hclose : endObject d = (.ok (), e)) (hend : endOfText e = (.ok (), e'))
    {places : List Json.Cursor} (houtline : Outline (.out []) (loopLevel first) c places) :
    s'.notBefore = s.notBefore ∨ ∃ u ∈ places, ∃ e e',
      Json.Reader.stringText u = (.ok "nbf", e) ∧
        memberValue "nbf" moment e = (.ok s'.notBefore, e') := by
  induction h generalizing places with
  | done hlast => exact .inl rfl
  | @next first s s' s'' c c₁ c₂ d t o name us hmore hname hmember hrest ih =>
    obtain ⟨places, rfl, hname'⟩ := (outline_hasMember hmore).1 houtline
    have hstring : Goes .str 0 ⟨t, o + 1⟩ (.out []) 0 c₁ := tracks_stringText _ |>.ok hname
    rcases s.follows_member name hmember ((hstring.outline_iff 0).1 hname') with hnext | hastray
    · rcases ih hclose hnext with hsame | ⟨u, hu, hstart⟩
      · rw [hsame]
        rcases member_eq_ok hmember with hsame' | ⟨rfl, hstart⟩
        · exact .inl hsame'
        · exact .inr ⟨_, List.mem_cons_self, c₁, c₂, hname, hstart⟩
      · exact .inr ⟨u, List.mem_cons_of_mem _ hu, hstart⟩
    -- a reader that is lost would not have found the end
    · exact absurd hend ((astray_visits hrest hastray).not_end hclose)

theorem moment_eq_some {n : Nat} (h : moment c = (.ok (some n), d)) :
    ∃ e, numeral c = (.ok (.int n), e) := by
  obtain ⟨v, e, hv, h⟩ := bind_eq_ok h
  cases v with
  | none => cases h
  | some v =>
    cases v with
    | int i =>
      cases i with
      | ofNat m =>
        cases h
        exact ⟨_, valueWith_eq_int (attempt_eq_some hv)⟩
      -- a negative number is not a moment
      | negSucc m => cases h
    | _ => cases h

end SignedToken.Registered

/-! ## The two readings of a payload -/

namespace SignedToken

open Outcome

theorem valueOf_eq_ok {α : Type} {r : Json.Reader α} {input : Bytes} {a : α}
    (h : valueOf r input = .ok a) :
    ∃ d e, r (.start input) = (.ok a, d) ∧ endOfText d = (.ok (), e) := by
  obtain ⟨d, hread, e, hend⟩ := whole_eq_ok.1 (mapError_eq_ok.1 h)
  exact ⟨d, e, hread, hend⟩

theorem fields_eq_ok {σ : Type} {member : σ → String → Json.Reader σ} {s s' : σ}
    {c d : Json.Cursor} (h : fields member s c = (.ok s', d)) :
    ∃ us, Visits member true s c us s' d := by
  obtain ⟨n, e, hn, h⟩ := bind_eq_ok h
  cases hn
  exact exists_visits h

/-- **Where both readings of an object end, the start that the second one notes is the start of the
claims.** -/
theorem notBefore_object {c d₁ d₂ e₁ e₂ e₁' e₂' : Json.Cursor} {claims : TokenClaims}
    {r : Registered.Draft} {n : Nat}
    (hclaims : (do (← fields TokenClaims.Draft.member .empty).finish : Json.Reader TokenClaims) c
      = (.ok claims, d₁))
    (hclose₁ : endObject d₁ = (.ok (), e₁)) (hend₁ : endOfText e₁ = (.ok (), e₁'))
    (hregistered : fields Registered.Draft.member ⟨[], none, none⟩ c = (.ok r, d₂))
    (hclose₂ : endObject d₂ = (.ok (), e₂)) (hend₂ : endOfText e₂ = (.ok (), e₂'))
    (hn : r.notBefore = some n) : claims.notBefore.seconds = n := by
  obtain ⟨draft, d, hdraft, hfinish⟩ := bind_eq_ok hclaims
  obtain ⟨hstart, rfl⟩ := TokenClaims.Draft.finish_eq_ok hfinish
  obtain ⟨places, hvisits⟩ := fields_eq_ok hdraft
  obtain ⟨_, hvisits'⟩ := fields_eq_ok hregistered
  have houtline := hvisits.outline TokenClaims.Draft.keeps_member hclose₁ hend₁
  rcases Registered.Draft.notBefore_visits hvisits' hclose₂ hend₂ houtline
    with hnone | ⟨u, hu, e, e', hname, hmoment⟩
  · rw [hn] at hnone
    cases hnone
  obtain ⟨t, e'', ht, hinstant⟩ := (TokenClaims.Draft.notBefore_visits hvisits).2 u hu e hname
  -- the member that is noted as the start is the one that the claims were read from
  cases hstart.symm.trans ht
  rw [hn] at hmoment
  obtain ⟨_, c₁, hcolon₁, hmoment⟩ := bind_eq_ok hmoment
  obtain ⟨_, c₂, hcolon₂, hinstant⟩ := bind_eq_ok hinstant
  cases hcolon₁.symm.trans hcolon₂
  obtain ⟨e₃, hint⟩ := Registered.moment_eq_some (within_eq_ok hmoment)
  have hint' := TokenClaims.instant_eq_ok (within_eq_ok hinstant)
  rw [hint, Prod.mk.injEq, Except.ok.injEq, Number.int.injEq] at hint'
  exact hint'.1.symm

/-- An array of the claims begins with a text, which is no moment. -/
theorem expiry_array {c d₁ d₂ : Json.Cursor} {expected : String} {a : String} {expiry : Option Nat}
    (hclaims : item 0 expected string c = (.ok a, d₁))
    (hregistered : itemOr 0 none Registered.moment c = (.ok expiry, d₂)) : expiry = none := by
  obtain ⟨more, c₁, hmore, hclaims⟩ := bind_eq_ok hclaims
  obtain ⟨more', c₂, hmore', hregistered⟩ := bind_eq_ok hregistered
  -- both readers start at the same item
  cases hmore.symm.trans hmore'
  cases more with
  | false => cases hclaims
  | true =>
    cases expiry with
    | none => rfl
    | some n =>
      obtain ⟨e, hint⟩ := Registered.moment_eq_some (within_eq_ok hregistered)
      obtain ⟨b, t, o, htoken, hinner⟩ :=
        peekToken_eq_ok (refuses_failNext _) (located_eq_ok (within_eq_ok hclaims))
      dsimp only at hinner
      -- where one of them reads a number, the other one expects a string
      by_cases hquote : b = 0x22
      · subst hquote
        rw [numeral_apply htoken] at hint
        cases hint
      · rw [if_neg hquote] at hinner
        exact absurd hinner wrongType_ne_ok

/-- **The start of the claims is the one that the second reading notes.** -/
theorem notBefore_eq {input : Bytes} {claims : TokenClaims} {r : Registered.Draft} {n : Nat}
    (hclaims : valueOf TokenClaims.reader input = .ok claims)
    (hregistered : valueOf Registered.reader input = .ok r) (hexpiry : r.expiry.isSome)
    (hn : r.notBefore = some n) : claims.notBefore.seconds = n := by
  obtain ⟨d₁, e₁, hread₁, hend₁⟩ := valueOf_eq_ok hclaims
  obtain ⟨d₂, e₂, hread₂, hend₂⟩ := valueOf_eq_ok hregistered
  rcases record_eq_ok hread₁ with
    ⟨t, o, e, htoken, hbody₁, hclose₁⟩ | ⟨t, o, e, htoken, hbody₁, hclose₁⟩
  · rcases record_eq_ok hread₂ with
      ⟨t', o', e', htoken', hbody₂, -⟩ | ⟨t', o', e', htoken', -, -⟩
    · cases htoken.symm.trans htoken'
      -- an array: its first item cannot be both a text and an expiry
      obtain ⟨userId, c₁, hitem, -⟩ := bind_eq_ok hbody₁
      obtain ⟨expiry, c₂, hitemOr, hbody₂⟩ := bind_eq_ok hbody₂
      obtain ⟨_, c₃, -, hbody₂⟩ := bind_eq_ok hbody₂
      obtain ⟨_, c₄, -, hbody₂⟩ := bind_eq_ok hbody₂
      obtain ⟨_, c₅, -, hbody₂⟩ := bind_eq_ok hbody₂
      obtain ⟨_, c₆, -, hbody₂⟩ := bind_eq_ok hbody₂
      cases hbody₂
      rw [expiry_array hitem hitemOr] at hexpiry
      cases hexpiry
    · cases htoken.symm.trans htoken'
  · rcases record_eq_ok hread₂ with
      ⟨t', o', e', htoken', -, -⟩ | ⟨t', o', e', htoken', hbody₂, hclose₂⟩
    · cases htoken.symm.trans htoken'
    · cases htoken.symm.trans htoken'
      exact notBefore_object hbody₁ hclose₁ hend₁ hbody₂ hclose₂ hend₂ hn

/-- **No token starts before the epoch.** -/
theorem notBefore_nonneg {secret : Bytes} {token : String} {c : TokenClaims}
    (h : decode secret token = .ok c) : 0 ≤ c.notBefore.seconds := by
  obtain ⟨_, payload, -, -, hpayload⟩ := decode_eq_ok.1 h
  obtain ⟨input, -, hclaims, r, hregistered, hexpiry, hstart⟩ := claimsOf_eq_ok.1 hpayload
  obtain ⟨n, hn⟩ := Option.isSome_iff_exists.1 hstart
  rw [notBefore_eq hclaims hregistered hexpiry hn]
  exact Int.natCast_nonneg n

end SignedToken

end TenantAuth

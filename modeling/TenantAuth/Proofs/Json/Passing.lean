import TenantAuth.Proofs.Json.Nesting

/-!
# Where skipped values end

A value that is passed over for its grammar alone ends where its brackets are closed again. The
brackets that the reader keeps in its list are those that the phases of the text count.
-/
namespace TenantAuth.Json.Reader

open Text.Decimal (isDigit)

variable {k : Nat} {f : Phase} {c d : Cursor}

/-! ## Strings -/

/-- A skipped escape leads back into the string. -/
theorem tracks_skipEscape : Tracks k skipEscape .esc .str := by
  refine tracks_next (fun o => (refuses_failHere _).stuck nofun) fun b t o => ?_
  dsimp only
  refine .after (goes_esc t o) ?_
  by_cases hb : b = 0x75
  · rw [if_pos hb, if_pos hb]
    exact (tracks_hexEscape.bind fun _ => tracks_pure _) _
  · rw [if_neg hb, if_neg hb]
    split
    · exact tracks_pure _ _
    · exact (refuses_failHere _).tracks resting_str _

/-- A skipped string is passed over to its closing quote. -/
theorem tracks_skipString : ∀ (n : Nat), Tracks k (skipString n) .str (.out [])
  | 0 => (refuses_failHere _).tracks resting_str
  | n + 1 => by
    refine tracks_peek (fun o => (refuses_failHere _).tracks resting_str _) fun b t o => ?_
    dsimp only
    have hgo := goes_str (k := k) (b := b) t o
    -- as for a string that is kept: the byte says which branch is taken
    by_cases hquote : b = 0x22
    · rw [if_pos hquote] at hgo ⊢
      exact .after hgo (.of_ok (.refl ..))
    · rw [if_neg hquote] at hgo ⊢
      by_cases hslash : b = 0x5C
      · rw [if_pos hslash] at hgo ⊢
        rw [bind_ok (advance_cons b t o)]
        exact .after hgo ((tracks_skipEscape.bind fun _ => tracks_skipString n) _)
      · rw [if_neg hslash] at hgo ⊢
        split
        · exact (refuses_failHere _).tracks resting_str _
        · rw [bind_ok (advance_cons b t o)]
          exact .after hgo (tracks_skipString n _)

/-! ## Numbers -/

/-- The digits of an exponent. -/
def skipDigits : Reader Unit := do
  match ← next with
  | none => failHere .invalidNumber
  | some d =>
    if isDigit d then
      let _ ← digits
    else failHere .invalidNumber

/-- An exponent, if there is one. -/
def skipExponent : Reader Unit := do
  if (← peek) = some 0x65 || (← peek) = some 0x45 then
    advance
    if (← peek) = some 0x2B || (← peek) = some 0x2D then
      advance
      skipDigits
    else skipDigits
  else return

/-- A fraction, if there is one, and an exponent. -/
def skipFraction : Reader Unit := do
  if (← peek) = some 0x2E then
    advance
    if (← digits).isEmpty then
      failNext .invalidNumber
      skipExponent
    else skipExponent
  else skipExponent

theorem skipNumber_eq : skipNumber = (do
    match ← next with
    | none =>
      failHere .invalidNumber
      skipFraction
    | some d =>
      if d = 0x30 then
        match ← peek with
        | some b =>
          if isDigit b then
            failNext .invalidNumber
            skipFraction
          else skipFraction
        | none => return
      else if isDigit d then
        let _ ← digits
        skipFraction
      else
        failHere .invalidNumber
        skipFraction) := rfl

/-- Digits are read where a digit is due. -/
theorem goes_skipDigits {due : Due} (hallows : ∀ b, isDigit b = true → due.allows b = true)
    (hafter : ∀ b, isDigit b = true → due.after b = []) (h : skipDigits c = (.ok (), d)) :
    Goes (.out [due]) k c (.out []) k d := by
  rcases c with ⟨rest, o⟩
  cases rest with
  | nil => cases h
  | cons b t =>
    rw [skipDigits, bind_ok (next_cons b t o)] at h
    dsimp only at h
    by_cases hb : isDigit b = true
    · rw [if_pos hb] at h
      exact (goes_last (hallows b hb) (hafter b hb) t o).trans
        ((tracks_digits.bind fun _ => tracks_pure _) _ |>.ok h)
    · rw [if_neg hb] at h
      cases h

theorem or_decide_eq_true {b x y : UInt8} :
    (decide (some b = some x) || decide (some b = some y)) = true ↔ b = x ∨ b = y := by
  rw [Bool.or_eq_true, decide_eq_true_iff, decide_eq_true_iff, Option.some.injEq, Option.some.injEq]

/-- A skipped exponent is made of fillers and what is due. -/
theorem goes_skipExponent (h : skipExponent c = (.ok (), d)) :
    Goes (.out []) k c (.out []) k d := by
  rcases c with ⟨rest, o⟩
  cases rest with
  | nil =>
    cases h
    exact .refl ..
  | cons b t =>
    rw [skipExponent, bind_ok (peek_cons b t o), bind_ok (peek_cons b t o)] at h
    -- an exponent is read if its letter is there; a number may end without one
    by_cases hb : b = 0x65 ∨ b = 0x45
    · rw [if_pos (or_decide_eq_true.2 hb), bind_ok (advance_cons b t o)] at h
      refine (goes_exponent hb t o).trans ?_
      cases t with
      | nil => cases h
      | cons x t =>
        rw [bind_ok (peek_cons x t _), bind_ok (peek_cons x t _)] at h
        by_cases hx : x = 0x2B ∨ x = 0x2D
        · rw [if_pos (or_decide_eq_true.2 hx), bind_ok (advance_cons x t _)] at h
          exact (goes_sign hx t _).trans (goes_skipDigits (fun _ hb => hb) (fun _ _ => rfl) h)
        · rw [if_neg (mt or_decide_eq_true.1 hx)] at h
          refine goes_skipDigits (fun b hb => ?_) (fun b hb => if_pos hb) h
          rw [Due.allows, hb, Bool.true_or, Bool.true_or]
    · rw [if_neg (mt or_decide_eq_true.1 hb)] at h
      cases h
      exact .refl ..

/-- So is a skipped fraction. -/
theorem goes_skipFraction (h : skipFraction c = (.ok (), d)) :
    Goes (.out []) k c (.out []) k d := by
  rcases c with ⟨rest, o⟩
  cases rest with
  | nil =>
    cases h
    exact .refl ..
  | cons b t =>
    rw [skipFraction, bind_ok (peek_cons b t o)] at h
    by_cases hb : b = 0x2E
    · subst hb
      rw [if_pos rfl, bind_ok (advance_cons _ t o)] at h
      obtain ⟨ds, e, hds, h⟩ := bind_eq_ok h
      refine (goes_filler rfl t o).trans ((tracks_digits _ |>.ok hds).trans ?_)
      split at h
      · cases h
      · exact goes_skipExponent h
    · rw [if_neg (fun hsome => hb (Option.some.inj hsome))] at h
      exact goes_skipExponent h

/-- A number after its sign, or after nothing, is passed over from its first digit on. -/
theorem goes_skipNumber
    (hgo : ∀ b t o, isDigit b = true → Goes f k ⟨b :: t, o⟩ (.out []) k ⟨t, o + 1⟩)
    (h : skipNumber c = (.ok (), d)) : Goes f k c (.out []) k d := by
  rw [skipNumber_eq] at h
  rcases c with ⟨rest, o⟩
  cases rest with
  | nil => cases h
  | cons b t =>
    rw [bind_ok (next_cons b t o)] at h
    dsimp only at h
    -- a zero stands alone before the point, and any other digit begins a run
    by_cases hzero : b = 0x30
    · subst hzero
      rw [if_pos rfl] at h
      refine (hgo _ t o rfl).trans ?_
      cases t with
      | nil =>
        cases h
        exact .refl ..
      | cons x t =>
        rw [bind_ok (peek_cons x t _)] at h
        dsimp only at h
        split at h
        · cases h
        · exact goes_skipFraction h
    · rw [if_neg hzero] at h
      by_cases hb : isDigit b = true
      · rw [if_pos hb] at h
        obtain ⟨ds, e, hds, h⟩ := bind_eq_ok h
        exact (hgo b t o hb).trans ((tracks_digits _ |>.ok hds).trans (goes_skipFraction h))
      · rw [if_neg hb] at h
        cases h

/-! ## Values -/

/-- How many brackets are open where skipping stands. -/
def Skip.depth : Skip → Nat
  | .before opened => opened.length
  | .inside _ _ opened => opened.length + 1
  | .done => 0

/-- After a value, as many brackets are open as before. -/
theorem Skip.depth_after (opened : List Open) : (Skip.after opened).depth = opened.length := by
  cases opened with
  | nil => rfl
  | cons inner opened => rfl

/-- A word is passed over. -/
theorem goes_skipWord {b : UInt8} {w : Bytes} {opened : List Open} {s : Skip} {t : Bytes} {o : Nat}
    (hb : (b, w) ∈ ([(0x6E, [0x75, 0x6C, 0x6C]), (0x74, [0x72, 0x75, 0x65]),
      (0x66, [0x61, 0x6C, 0x73, 0x65])] : List (UInt8 × Bytes)))
    (h : (do advance; ident w; return Skip.after opened : Reader Skip) ⟨b :: t, o⟩ = (.ok s, d)) :
    Goes (.out []) opened.length ⟨b :: t, o⟩ (.out []) s.depth d := by
  have hland := (lands_word (k := opened.length) hb (tracks_pure (Skip.after opened)) t o).ok h
  rw [bind_ok (advance_cons b t o)] at h
  obtain ⟨_, e, -, h⟩ := bind_eq_ok h
  cases h
  rw [Skip.depth_after]
  exact hland

/-- A value that starts is passed over, or its bracket is. -/
theorem goes_skipStart {opened : List Open} {s : Skip} (h : skipStart opened c = (.ok s, d)) :
    Goes (.out []) opened.length c (.out []) s.depth d := by
  obtain ⟨b, t, o, htoken, h⟩ := peekToken_eq_ok (refuses_failNext _) h
  refine (goes_token htoken).trans ?_
  dsimp only at h
  -- scalars are passed over at once, a bracket is only entered
  by_cases hn : b = 0x6E
  · rw [if_pos hn] at h
    exact goes_skipWord (by rw [hn]; decide) h
  rw [if_neg hn] at h
  by_cases ht : b = 0x74
  · rw [if_pos ht] at h
    exact goes_skipWord (by rw [ht]; decide) h
  rw [if_neg ht] at h
  by_cases hf : b = 0x66
  · rw [if_pos hf] at h
    exact goes_skipWord (by rw [hf]; decide) h
  rw [if_neg hf] at h
  by_cases hminus : b = 0x2D
  · rw [if_pos hminus, bind_ok (advance_cons b t o)] at h
    subst hminus
    obtain ⟨_, e, hnumber, h⟩ := bind_eq_ok h
    cases h
    rw [Skip.depth_after]
    exact (goes_minus t o).trans
      (goes_skipNumber (fun b t o hb => goes_last (d := .digit) hb rfl t o) hnumber)
  rw [if_neg hminus] at h
  by_cases hdigit : isDigit b = true
  · rw [if_pos hdigit] at h
    obtain ⟨_, e, hnumber, h⟩ := bind_eq_ok h
    cases h
    rw [Skip.depth_after]
    exact goes_skipNumber (fun b t o hb => goes_filler (isFiller_of_isDigit hb) t o) hnumber
  rw [if_neg hdigit] at h
  by_cases hquote : b = 0x22
  · rw [if_pos hquote, bind_ok (advance_cons b t o), bind_ok (stepsLeft_apply _)] at h
    subst hquote
    obtain ⟨_, e, hstring, h⟩ := bind_eq_ok h
    cases h
    rw [Skip.depth_after]
    exact (goes_quote t o).trans (tracks_skipString _ _ |>.ok hstring)
  rw [if_neg hquote] at h
  by_cases hlist : b = 0x5B
  · rw [if_pos hlist] at h
    cases h
    exact goes_open (.inl hlist) t o
  rw [if_neg hlist] at h
  by_cases hobject : b = 0x7B
  · rw [if_pos hobject] at h
    cases h
    exact goes_open (.inr hobject) t o
  · rw [if_neg hobject] at h
    cases h

/-- The name of a member is passed over with its colon. -/
theorem tracks_skipName (inner : Open) : Tracks (k + 1) (skipName inner) (.out []) (.out []) := by
  cases inner with
  | list => exact tracks_pure ()
  | object =>
    refine tracks_peekToken (fun o => (refuses_failNext _).tracks resting_out _) fun b t o => ?_
    dsimp only
    by_cases hquote : b = 0x22
    · rw [if_pos hquote, bind_ok (advance_cons b t o)]
      subst hquote
      exact .after (goes_quote t o) ((tracks_stepsLeft.bind fun n =>
        (tracks_skipString n).bind fun _ => tracks_colon) _)
    · rw [if_neg hquote]
      exact (refuses_failNext _).tracks resting_out _

/-- Between values there are commas, names and closing brackets. -/
theorem goes_skipBetween {afterValue : Bool} {inner : Open} {opened : List Open} {s : Skip}
    (h : skipBetween afterValue inner opened c = (.ok s, d)) :
    Goes (.out []) (opened.length + 1) c (.out []) s.depth d := by
  obtain ⟨b, t, o, htoken, h⟩ := peekToken_eq_ok (refuses_failNext _) h
  refine (goes_token htoken).trans ?_
  dsimp only at h
  split at h
  · next hcomma =>
    have hb : b = 0x2C := of_decide_eq_true (Bool.and_eq_true_iff.1 hcomma).1
    rw [bind_ok (advance_cons b t o)] at h
    obtain ⟨_, e, hname, h⟩ := bind_eq_ok h
    cases h
    exact (goes_separator (.inl hb) t o).trans (tracks_skipName inner _ |>.ok hname)
  -- without a comma, the bracket closes or the first value follows
  · by_cases hclose : b = (if inner = .list then 0x5D else 0x7D)
    · have hb : b = 0x5D ∨ b = 0x7D := by
        rw [hclose]
        cases inner with
        | list => exact .inl rfl
        | object => exact .inr rfl
      rw [if_pos hclose] at h
      cases h
      rw [Skip.depth_after]
      exact goes_close hb t o
    · rw [if_neg hclose] at h
      cases afterValue with
      | true => cases h
      | false =>
        obtain ⟨_, e, hname, h⟩ := bind_eq_ok h
        cases h
        exact tracks_skipName inner _ |>.ok hname

/-- A value is skipped to its end, however deep it is. -/
theorem goes_skipOn : ∀ {n : Nat} {s : Skip} {c d : Cursor}, skipOn n s c = (.ok (), d) →
    Goes (.out []) s.depth c (.out []) 0 d
  | 0, s, c, d, h => by
    cases h
  | n + 1, .done, c, d, h => by
    cases h
    exact .refl ..
  -- the brackets are counted by the state of skipping, so the steps fit together
  | n + 1, .before opened, c, d, h => by
    obtain ⟨s, e, hstart, hrest⟩ := bind_eq_ok h
    exact (goes_skipStart hstart).trans (goes_skipOn hrest)
  | n + 1, .inside afterValue inner opened, c, d, h => by
    obtain ⟨s, e, hbetween, hrest⟩ := bind_eq_ok h
    exact (goes_skipBetween hbetween).trans (goes_skipOn hrest)

/-- **A value that is passed over is one whose brackets are all closed.** -/
theorem goes_skip (h : skip c = (.ok (), d)) : Goes (.out []) k c (.out []) k d := by
  -- skipping counts from no bracket at all, which are the ones that are open around it
  rw [skip, bind_ok (stepsLeft_apply c)] at h
  have hgo := (goes_skipOn h).add k
  rwa [Skip.depth, List.length_nil, Nat.zero_add] at hgo

/-- A member that is not known is passed over, with its colon. -/
theorem goes_skipMember {name : String} (h : skipMember name c = (.ok (), d)) :
    Goes (.out []) (k + 1) c (.out []) (k + 1) d := by
  obtain ⟨_, e, hcolon, h⟩ := bind_eq_ok h
  exact (tracks_colon _ |>.ok hcolon).trans (goes_skip (within_eq_ok h))

end TenantAuth.Json.Reader

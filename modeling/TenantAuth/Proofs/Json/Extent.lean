import TenantAuth.Proofs.Json.Phase
import TenantAuth.Proofs.Text.Ascii

/-!
# Where values end

The readers of strings, words, numbers and nested values land well: each takes exactly the bytes of
one value, or gives up inside it.
-/
namespace TenantAuth.Json.Reader

open Text.Decimal (isDigit)

variable {α β : Type} {k : Nat} {f g h : Phase} {c d : Cursor}

/-! ## Bytes between tokens -/

/-- A byte that may stand outside the strings, makes nothing due, and is no bracket, comma or
colon. -/
def isFiller (b : UInt8) : Bool := isDigit b || isBlank b || b = 0x2E

/-- Only brackets, commas and colons have a say in how many brackets are open. -/
theorem nest_of_not_bracket {b : UInt8} (hb : b ∉ [0x5B, 0x7B, 0x5D, 0x7D, 0x2C, 0x3A]) :
    nest k b = some k := by
  simp only [List.mem_cons, List.not_mem_nil, or_false, not_or] at hb
  obtain ⟨h₁, h₂, h₃, h₄, h₅, h₆⟩ := hb
  rw [nest, if_neg (by simp [h₁, h₂]), if_neg (by simp [h₃, h₄]), if_neg (by simp [h₅, h₆])]

/-- A filler is passed over. -/
theorem goes_filler {b : UInt8} (hb : isFiller b = true) (t : Bytes) (o : Nat) :
    Goes (.out []) k ⟨b :: t, o⟩ (.out []) k ⟨t, o + 1⟩ := by
  have each : ∀ b : UInt8, isFiller b = true → Phase.step (.out []) b = some (.out []) ∧
      b ∉ [0x5B, 0x7B, 0x5D, 0x7D, 0x2C, 0x3A] :=
    Text.forall_byte (by decide +kernel)
  obtain ⟨hstep, hbracket⟩ := each b hb
  exact .one hstep (nest_of_not_bracket hbracket)

/-- A run of bytes that leave the phase alone is passed over. -/
theorem goes_dropWhile {p : UInt8 → Bool}
    (hp : ∀ b t o, p b = true → Goes f k ⟨b :: t, o⟩ f k ⟨t, o + 1⟩) :
    ∀ (t : Bytes) (o : Nat),
      Goes f k ⟨t, o⟩ f k ⟨t.dropWhile p, o + (t.takeWhile p).length⟩
  | [], o => .refl ..
  | b :: t, o => by
    cases hb : p b with
    -- the byte is passed over, and the rest of the run starts one byte further on
    | true =>
      rw [List.dropWhile_cons_of_pos hb, List.takeWhile_cons_of_pos hb, List.length_cons,
        show o + ((t.takeWhile p).length + 1) = o + 1 + (t.takeWhile p).length by omega]
      exact (hp b t o hb).trans (goes_dropWhile hp t (o + 1))
    | false =>
      have hneg : ¬ p b = true := by
        rw [hb]
        exact Bool.false_ne_true
      rw [List.dropWhile_cons_of_neg hneg, List.takeWhile_cons_of_neg hneg]
      exact .refl ..

/-- The cursor before the next token. -/
def atToken (c : Cursor) : Cursor :=
  ⟨c.rest.dropWhile isBlank, c.offset + (c.rest.takeWhile isBlank).length⟩

/-- So are the blanks before a token. -/
theorem goes_atToken (c : Cursor) : Goes (.out []) k c (.out []) k (atToken c) :=
  goes_dropWhile
    (fun b t o hb => goes_filler (by rw [isFiller, hb, Bool.or_true, Bool.true_or]) t o)
    c.rest c.offset

/-- The blanks before a token that is found. -/
theorem goes_token {e : Cursor} (htoken : atToken c = e) : Goes (.out []) k c (.out []) k e :=
  htoken ▸ goes_atToken c

/-- A reader that looks for a token is at the token when it goes on. -/
theorem bind_peekToken (F : Option UInt8 → Reader α) (c : Cursor) :
    (peekToken >>= F) c = F (atToken c).rest.head? (atToken c) :=
  bind_ok (peekToken_apply c)

/-- What follows depends on the next token. -/
theorem tracks_peekToken {F : Option UInt8 → Reader α}
    (hnone : ∀ o, Lands k (.out []) g ⟨[], o⟩ (F none ⟨[], o⟩))
    (hsome : ∀ b t o, Lands k (.out []) g ⟨b :: t, o⟩ (F (some b) ⟨b :: t, o⟩)) :
    Tracks k (peekToken >>= F) (.out []) g := by
  intro c
  rw [bind_peekToken]
  refine .after (goes_atToken c) ?_
  rw [atToken]
  cases c.rest.dropWhile isBlank with
  | nil => exact hnone _
  | cons b t => exact hsome b t _

/-- A reader that wants another token and succeeds has found one. -/
theorem peekToken_eq_ok {F : Option UInt8 → Reader α} {a : α} (hnone : Refuses (F none))
    (h : (peekToken >>= F) c = (.ok a, d)) :
    ∃ b t o, atToken c = ⟨b :: t, o⟩ ∧ F (some b) ⟨b :: t, o⟩ = (.ok a, d) := by
  rw [bind_peekToken] at h
  rcases htoken : atToken c with ⟨rest, o⟩
  rw [htoken] at h
  cases rest with
  | nil =>
    obtain ⟨e, he⟩ := hnone ⟨[], o⟩
    cases he.symm.trans h
  | cons b t => exact ⟨b, t, o, rfl, h⟩

/-- A run of digits is taken as a whole. -/
theorem digits_apply (c : Cursor) :
    digits c = (.ok (c.rest.takeWhile isDigit),
      ⟨c.rest.dropWhile isDigit, c.offset + (c.rest.takeWhile isDigit).length⟩) := by
  have happend := List.takeWhile_append_dropWhile (p := isDigit) (l := c.rest)
  have hdrop : c.rest.drop (c.rest.takeWhile isDigit).length = c.rest.dropWhile isDigit := by
    calc c.rest.drop (c.rest.takeWhile isDigit).length
        = (c.rest.takeWhile isDigit ++ c.rest.dropWhile isDigit).drop
            (c.rest.takeWhile isDigit).length := by rw [happend]
      _ = c.rest.dropWhile isDigit := List.drop_left
  show (Except.ok (c.rest.takeWhile isDigit),
    (⟨c.rest.drop (c.rest.takeWhile isDigit).length, _⟩ : Cursor)) = _
  rw [hdrop]

/-- Digits lead from outside the strings to outside the strings. -/
theorem tracks_digits : Tracks k digits (.out []) (.out []) := by
  intro c
  rw [digits_apply]
  refine .of_ok (goes_dropWhile (fun b t o hb => goes_filler ?_ t o) c.rest c.offset)
  rw [isFiller, hb, Bool.true_or, Bool.true_or]

/-! ## Strings -/

/-- In an escape, a text goes through only with a hexadecimal digit next. -/
theorem good_hex {n : Nat} {b : UInt8} {t : Bytes} :
    Good (.hex n) (b :: t) ↔ (hexValue? b).isSome ∧ Good (.afterDigit n) t := by
  cases hb : (hexValue? b).isSome with
  | true =>
    have hstep : Phase.step (.hex n) b = some (.afterDigit n) := if_pos hb
    exact (good_cons hstep).trans ⟨fun h => ⟨rfl, h⟩, fun h => h.2⟩
  | false =>
    have hstuck : ¬ Good (.hex n) (b :: t) :=
      not_good_cons (if_neg (by rw [hb]; exact Bool.false_ne_true))
    exact ⟨fun h => absurd h hstuck, fun h => nomatch h.1⟩

theorem goes_hex {n : Nat} {b : UInt8} {v : Nat} (hb : hexValue? b = some v) (t : Bytes) (o : Nat) :
    Goes (.hex n) k ⟨b :: t, o⟩ (.afterDigit n) k ⟨t, o + 1⟩ :=
  .one (if_pos (by rw [hb]; rfl)) (if_neg nofun)

/-- In a good text four digits follow. -/
theorem hexValues_of_good {x y z w : UInt8} {t : Bytes}
    (hgood : Good (.hex 3) (x :: y :: z :: w :: t)) :
    (hexValue? x).isSome ∧ (hexValue? y).isSome ∧ (hexValue? z).isSome ∧ (hexValue? w).isSome := by
  obtain ⟨hx, hgood⟩ := good_hex.1 hgood
  obtain ⟨hy, hgood⟩ := good_hex.1 hgood
  obtain ⟨hz, hgood⟩ := good_hex.1 hgood
  exact ⟨hx, hy, hz, (good_hex.1 hgood).1⟩

/-- The four digits of an escape lead back into the string. -/
theorem tracks_hexEscape : Tracks k hexEscape (.hex 3) .str := by
  rintro ⟨_ | ⟨x, _ | ⟨y, _ | ⟨z, _ | ⟨w, t⟩⟩⟩⟩, o⟩
  · exact .stuck (not_good_nil (by decide))
  · exact .stuck fun hgood => not_good_nil (by decide) (good_hex.1 hgood).2
  · exact .stuck fun hgood => not_good_nil (by decide) (good_hex.1 (good_hex.1 hgood).2).2
  · exact .stuck fun hgood =>
      not_good_nil (by decide) (good_hex.1 (good_hex.1 (good_hex.1 hgood).2).2).2
  -- four bytes are taken at once; where one is no digit, the text is not good
  have hfour := hexValues_of_good (x := x) (y := y) (z := z) (w := w) (t := t)
  rw [hexEscape, bind_ok (get_apply _)]
  dsimp only
  rw [bind_ok (set_apply _ _)]
  cases hx : hexValue? x with
  | none =>
    rw [hx] at hfour
    exact (refuses_failHere _).stuck fun hgood => Bool.false_ne_true (hfour hgood).1
  | some a =>
    cases hy : hexValue? y with
    | none =>
      rw [hy] at hfour
      exact (refuses_failHere _).stuck fun hgood => Bool.false_ne_true (hfour hgood).2.1
    | some b =>
      cases hz : hexValue? z with
      | none =>
        rw [hz] at hfour
        exact (refuses_failHere _).stuck fun hgood => Bool.false_ne_true (hfour hgood).2.2.1
      | some c =>
        cases hw : hexValue? w with
        | none =>
          rw [hw] at hfour
          exact (refuses_failHere _).stuck fun hgood => Bool.false_ne_true (hfour hgood).2.2.2
        | some d =>
          exact .of_ok ((goes_hex hx _ _).trans ((goes_hex hy _ _).trans
            ((goes_hex hz _ _).trans (goes_hex hw _ _))))

/-- A byte of an escape or a string other than the last quote. -/
theorem goes_esc {b : UInt8} (t : Bytes) (o : Nat) :
    Goes .esc k ⟨b :: t, o⟩ (if b = 0x75 then .hex 3 else .str) k ⟨t, o + 1⟩ :=
  .one rfl (if_neg nofun)

/-- Inside a string a quote ends it, a backslash starts an escape, and all else stays inside. -/
theorem goes_str {b : UInt8} (t : Bytes) (o : Nat) :
    Goes .str k ⟨b :: t, o⟩ (if b = 0x22 then .out [] else if b = 0x5C then .esc else .str) k
      ⟨t, o + 1⟩ :=
  .one rfl (if_neg nofun)

theorem resting_str : Phase.Resting .str := .inr rfl

theorem resting_out : Phase.Resting (.out []) := .inl rfl

/-- A mark of a surrogate is found, or what follows is another byte of the string. -/
theorem tracks_backslash : Tracks k (surrogateMark 0x5C) .str .esc := by
  refine tracks_peek (fun o => (refuses_failHere _).tracks resting_str _) fun b t o => ?_
  show Lands k .str .esc ⟨b :: t, o⟩ ((if b = 0x5C then return else failHere _ : Reader Unit) _)
  by_cases hb : b = 0x5C
  · rw [if_pos hb]
    subst hb
    exact .of_ok (goes_str t o)
  · rw [if_neg hb]
    have hgo := goes_str (k := k) (b := b) t o
    rw [if_neg hb] at hgo
    -- the byte is taken before it is refused, so the reader may have left the string
    by_cases hquote : b = 0x22
    · rw [if_pos hquote] at hgo
      exact .of_error resting_out (Nat.le_refl k) hgo
    · rw [if_neg hquote] at hgo
      exact .of_error resting_str (Nat.le_refl k) hgo

theorem tracks_u : Tracks k (surrogateMark 0x75) .esc (.hex 3) := by
  refine tracks_peek (fun o => (refuses_failHere _).stuck nofun) fun b t o => ?_
  show Lands k .esc (.hex 3) ⟨b :: t, o⟩ ((if b = 0x75 then return else failHere _ : Reader Unit) _)
  have hgo := goes_esc (k := k) (b := b) t o
  -- any other byte ends the escape, so the reader is left inside the string
  by_cases hb : b = 0x75
  · rw [if_pos hb] at hgo ⊢
    exact .of_ok hgo
  · rw [if_neg hb] at hgo ⊢
    exact .of_error resting_str (Nat.le_refl k) hgo

/-- The digits of a character, and those of the second half of a pair, lead back into the string. -/
theorem tracks_unicodeEscape : Tracks k unicodeEscape (.hex 3) .str := by
  -- only the first half of a pair asks for another escape
  refine tracks_hexEscape.bind fun n => ?_
  split
  · exact (refuses_failHere _).tracks resting_str
  · split
    · refine tracks_backslash.bind fun _ => tracks_u.bind fun _ => tracks_hexEscape.bind fun m => ?_
      split
      · exact tracks_pure _
      · exact (refuses_failHere _).tracks resting_str
    · exact tracks_pure _

/-- Every escape leads back into the string. -/
theorem tracks_escape : Tracks k escape .esc .str := by
  refine tracks_next (fun o => (refuses_failHere _).stuck nofun) fun b t o => ?_
  refine .after (goes_esc t o) ?_
  -- the escape of a code goes on; any other is over with this byte, or refused after it
  by_cases hb : b = 0x75
  · subst hb
    exact tracks_unicodeEscape _
  · rw [if_neg hb]
    refine (?_ : Tracks k _ .str .str) _
    dsimp only
    split
    all_goals first
      | exact tracks_pure _
      | exact (refuses_failHere _).tracks resting_str
      | exact absurd rfl hb

theorem tracks_stepsLeft : Tracks k stepsLeft f f := fun c => by
  rw [stepsLeft_apply]
  exact .of_ok (.refl ..)

/-- The bytes of a string are read to the closing quote. -/
theorem tracks_stringBytes : ∀ (n : Nat) (read : Bytes),
    Tracks k (stringBytes n read) .str (.out [])
  | 0, read => (refuses_failHere _).tracks resting_str
  | n + 1, read => by
    refine tracks_peek (fun o => (refuses_failHere _).tracks resting_str _) fun b t o => ?_
    dsimp only
    rw [bind_ok (advance_cons b t o)]
    refine .after (goes_str t o) ?_
    -- the induction is on the fuel, and the phase after the byte says which branch is taken
    by_cases hquote : b = 0x22
    · rw [if_pos hquote, if_pos hquote]
      exact tracks_pure _ _
    · rw [if_neg hquote, if_neg hquote]
      by_cases hslash : b = 0x5C
      · rw [if_pos hslash, if_pos hslash]
        exact (tracks_escape.bind fun e => tracks_stringBytes n _) _
      · rw [if_neg hslash, if_neg hslash]
        split
        · exact (refuses_failHere _).tracks resting_str _
        · exact tracks_stringBytes n _ _

theorem tracks_stringText : Tracks k stringText .str (.out []) := by
  refine tracks_stepsLeft.bind fun n => (tracks_stringBytes n []).bind fun b => ?_
  cases Text.ofBytes? b with
  | some s => exact tracks_pure s
  | none => exact (refuses_failHere _).tracks resting_out

/-! ## Words -/

/-- A byte outside the strings that is no bracket, comma or colon. -/
theorem goes_out {b : UInt8} {due : List Due} (hstep : Phase.step (.out []) b = some (.out due))
    (hb : b ∉ [0x5B, 0x7B, 0x5D, 0x7D, 0x2C, 0x3A]) (t : Bytes) (o : Nat) :
    Goes (.out []) k ⟨b :: t, o⟩ (.out due) k ⟨t, o + 1⟩ :=
  .one hstep (nest_of_not_bracket hb)

/-- A byte that is due. -/
theorem goes_due {d : Due} {due : List Due} {b : UInt8} (hb : d.allows b = true) (t : Bytes)
    (o : Nat) : Goes (.out (d :: due)) k ⟨b :: t, o⟩ (.out (d.after b ++ due)) k ⟨t, o + 1⟩ :=
  .one (if_pos hb) (if_neg nofun)

/-- The last byte that is due. -/
theorem goes_last {d : Due} {b : UInt8} (hb : d.allows b = true) (hlast : d.after b = [])
    (t : Bytes) (o : Nat) : Goes (.out [d]) k ⟨b :: t, o⟩ (.out []) k ⟨t, o + 1⟩ := by
  have hgo : Goes (.out [d]) k ⟨b :: t, o⟩ (.out (d.after b ++ [])) k ⟨t, o + 1⟩ := goes_due hb t o
  rwa [hlast] at hgo

/-- After a minus sign a digit is due. -/
theorem goes_minus (t : Bytes) (o : Nat) :
    Goes (.out []) k ⟨0x2D :: t, o⟩ (.out [.digit]) k ⟨t, o + 1⟩ :=
  goes_out rfl (by decide) t o

/-- A text does not go through with another byte than the one that is due. -/
theorem not_good_due {d : Due} {due : List Due} {b : UInt8} {t : Bytes} (hb : d.allows b = false) :
    ¬ Good (.out (d :: due)) (b :: t) :=
  not_good_cons (if_neg (by rw [hb]; exact Bool.false_ne_true))

/-- A word is read byte by byte, each of them due. -/
theorem tracks_ident : ∀ {w : Bytes}, (∀ b ∈ w, Due.allows (.letter b) b = true) →
    Tracks k (ident w) (.out (w.map Due.letter)) (.out [])
  | [], _ => tracks_pure ()
  | b :: w, hw => by
    refine tracks_next (fun o => (refuses_failHere _).stuck nofun) fun x t o => ?_
    dsimp only
    -- another letter than the one that is due makes the text no good one
    by_cases hx : x = b
    · rw [if_pos hx]
      subst hx
      exact .after (goes_due (hw x List.mem_cons_self) t o)
        (tracks_ident (fun y hy => hw y (List.mem_cons_of_mem x hy)) _)
    · rw [if_neg hx]
      refine (refuses_failHere _).stuck (not_good_due ?_)
      rw [Due.allows, decide_eq_false hx, Bool.false_and]

/-- The words `null`, `true` and `false`, after their first letters. -/
theorem tracks_word {w : Bytes} (hw : w ∈ [[0x75, 0x6C, 0x6C], [0x72, 0x75, 0x65],
    [0x61, 0x6C, 0x73, 0x65]]) : Tracks k (ident w) (.out (w.map Due.letter)) (.out []) := by
  have each : ([[0x75, 0x6C, 0x6C], [0x72, 0x75, 0x65], [0x61, 0x6C, 0x73, 0x65]] : List Bytes).all
      (fun w => w.all fun b => Due.allows (.letter b) b) = true := by decide
  exact tracks_ident (List.all_eq_true.1 (List.all_eq_true.1 each w hw))

/-! ## Numbers -/

theorem isFiller_of_isDigit {b : UInt8} (hb : isDigit b = true) : isFiller b = true := by
  rw [isFiller, hb, Bool.true_or, Bool.true_or]

/-- Making a number of what was read takes nothing. -/
theorem tracks_decimal (negative : Bool) (significand : Nat) (exponent : Int) :
    Tracks k (decimal negative significand exponent) (.out []) (.out []) := by
  rw [decimal]
  cases Binary64.ofDecimal significand exponent with
  | none => exact (refuses_failHere _).tracks resting_out
  | some x => exact tracks_pure _

/-- The digits of an exponent are fillers. -/
theorem tracks_exponentDigits (mayOverflow : Bool) : ∀ (n e : Nat),
    Tracks k (exponentDigits mayOverflow n e) (.out []) (.out [])
  | 0, e => tracks_pure _
  | n + 1, e => by
    refine tracks_peek (fun o => tracks_pure _ _) fun b t o => ?_
    dsimp only
    cases hb : isDigit b with
    | false =>
      rw [if_neg nofun]
      exact tracks_pure _ _
    | true =>
      rw [if_pos rfl, bind_ok (advance_cons b t o)]
      refine .after (goes_filler (isFiller_of_isDigit hb) t o) ?_
      -- an exponent that overflows is refused, or the rest of its digits is passed over
      split
      · split
        · exact (refuses_failHere _).tracks resting_out _
        · exact (tracks_digits.bind fun _ => tracks_pure _) _
      · exact tracks_exponentDigits mayOverflow n _ _

/-- An exponent after its sign, and the number that it makes. -/
def exponentAfterSign (negative : Bool) (significand : Nat) (point : Int) (positive : Bool) :
    Reader Binary64 := do
  match ← next with
  | none => failHere .eofValue
  | some d =>
    if !isDigit d then failHere .invalidNumber
    else
      match ← exponentDigits (significand != 0 && positive) (← stepsLeft) (d.toNat - 0x30) with
      | none => return Binary64.zero negative
      | some e =>
        let e : Int := if positive then point + e else point - e
        decimal negative significand (max (-0x80000000) (min 0x7FFFFFFF e))

/-- An exponent is its letter, a sign or none, and what comes after the sign. -/
theorem exponent_eq (negative : Bool) (significand : Nat) (point : Int) :
    exponent negative significand point = (do
      advance
      match ← peek with
      | some 0x2B => do
        advance
        exponentAfterSign negative significand point true
      | some 0x2D => do
        advance
        exponentAfterSign negative significand point false
      | _ => exponentAfterSign negative significand point true) := rfl

/-- A digit is due, and no sign is next. -/
theorem lands_exponentAfterSign (negative : Bool) (significand : Nat) (point : Int)
    (positive : Bool) {d : Due} (hafter : ∀ b, isDigit b = true → d.after b = [])
    (hallows : ∀ b ∈ c.rest.head?, d.allows b = isDigit b) :
    Lands k (.out [d]) (.out []) c (exponentAfterSign negative significand point positive c) := by
  rcases c with ⟨rest, o⟩
  cases rest with
  | nil => exact .stuck nofun
  | cons b t =>
    have hb : d.allows b = isDigit b := hallows b rfl
    rw [exponentAfterSign, bind_ok (next_cons b t o)]
    dsimp only
    cases hdigit : isDigit b with
    -- the digit that is due is missing, so that the text is not good and any place will do
    | false =>
      rw [if_pos (by rfl)]
      exact (refuses_failHere _).stuck (not_good_due (hb.trans hdigit))
    | true =>
      rw [if_neg (by nofun)]
      refine .after (goes_last (hb.trans hdigit) (hafter b hdigit) t o) ?_
      refine (tracks_stepsLeft.bind fun n => (tracks_exponentDigits _ n _).bind fun e => ?_) _
      cases e with
      | none => exact tracks_pure _
      | some e => exact tracks_decimal _ _ _

/-- After the letter of an exponent a sign or a digit is due. -/
theorem goes_exponent {b : UInt8} (hb : b = 0x65 ∨ b = 0x45) (t : Bytes) (o : Nat) :
    Goes (.out []) k ⟨b :: t, o⟩ (.out [.signOrDigit]) k ⟨t, o + 1⟩ := by
  rcases hb with rfl | rfl
  · exact goes_out rfl (by decide) t o
  · exact goes_out rfl (by decide) t o

/-- After the sign a digit is due. -/
theorem goes_sign {b : UInt8} (hb : b = 0x2B ∨ b = 0x2D) (t : Bytes) (o : Nat) :
    Goes (.out [.signOrDigit]) k ⟨b :: t, o⟩ (.out [.digit]) k ⟨t, o + 1⟩ := by
  rcases hb with rfl | rfl
  · exact goes_due (d := .signOrDigit) rfl t o
  · exact goes_due (d := .signOrDigit) rfl t o

/-- A sign in an exponent wants a digit. -/
theorem lands_sign (negative : Bool) (significand : Nat) (point : Int) (positive : Bool) {b : UInt8}
    (hb : b = 0x2B ∨ b = 0x2D) (t : Bytes) (o : Nat) :
    Lands k (.out [.signOrDigit]) (.out []) ⟨b :: t, o⟩
      ((do advance; exponentAfterSign negative significand point positive : Reader Binary64)
        ⟨b :: t, o⟩) := by
  rw [bind_ok (advance_cons b t o)]
  exact .after (goes_sign hb t o) (lands_exponentAfterSign negative significand point positive
    (fun _ _ => rfl) (fun _ _ => rfl))

/-- A letter that begins an exponent. -/
theorem lands_exponent (negative : Bool) (significand : Nat) (point : Int) {b : UInt8}
    (hb : b = 0x65 ∨ b = 0x45) (t : Bytes) (o : Nat) :
    Lands k (.out []) (.out []) ⟨b :: t, o⟩ (exponent negative significand point ⟨b :: t, o⟩) := by
  have hafter : ∀ b, isDigit b = true → Due.signOrDigit.after b = [] := fun b hdigit =>
    if_pos hdigit
  rw [exponent_eq, bind_ok (advance_cons b t o)]
  refine .after (goes_exponent hb t o) ?_
  cases t with
  | nil => exact lands_exponentAfterSign negative significand point true hafter nofun
  | cons x t =>
    rw [bind_ok (peek_cons x t (o + 1))]
    by_cases hplus : x = 0x2B
    · subst hplus
      exact lands_sign negative significand point true (.inl rfl) t (o + 1)
    · by_cases hminus : x = 0x2D
      · subst hminus
        exact lands_sign negative significand point false (.inr rfl) t (o + 1)
      -- neither sign: the letter is followed by the digits
      · have hmatch : (match some x with
            | some 0x2B => do
              advance
              exponentAfterSign negative significand point true
            | some 0x2D => do
              advance
              exponentAfterSign negative significand point false
            | _ => exponentAfterSign negative significand point true)
            = exponentAfterSign negative significand point true := by
          split
          · next h => exact absurd (Option.some.inj h) hplus
          · next h => exact absurd (Option.some.inj h) hminus
          · rfl
        rw [hmatch]
        refine lands_exponentAfterSign negative significand point true hafter fun y hy => ?_
        cases hy
        rw [Due.allows, decide_eq_false hplus, decide_eq_false hminus, Bool.or_false, Bool.or_false]

/-- A number may end here, or with its exponent. -/
theorem tracks_exponentOrEnd (negative : Bool) (significand : Nat) (point : Int) :
    Tracks k (exponentOrEnd negative significand point) (.out []) (.out []) := by
  refine tracks_peek (fun o => tracks_decimal _ _ _ _) fun b t o => ?_
  -- the letter of an exponent is still to be taken; any other byte ends the number
  by_cases hb : b = 0x65 ∨ b = 0x45
  · rcases hb with rfl | rfl
    · exact lands_exponent negative significand point (.inl rfl) t o
    · exact lands_exponent negative significand point (.inr rfl) t o
  · refine (?_ : Tracks k _ (.out []) (.out [])) _
    split
    · next h => exact absurd (.inl (Option.some.inj h)) hb
    · next h => exact absurd (.inr (Option.some.inj h)) hb
    · exact tracks_decimal _ _ _

/-- A fraction is read from its point on. -/
theorem lands_fraction (negative : Bool) (significand : Nat) (point : Int) (t : Bytes) (o : Nat) :
    Lands k (.out []) (.out []) ⟨0x2E :: t, o⟩
      (fraction negative significand point ⟨0x2E :: t, o⟩) := by
  rw [fraction, bind_ok (advance_cons 0x2E t o)]
  refine .after (goes_filler rfl t o) ((tracks_digits.bind fun ds => ?_) _)
  split
  · refine tracks_peek (fun o => ?_) fun b t o => ?_
    · exact (refuses_failNext _).tracks resting_out _
    · exact (refuses_failNext _).tracks resting_out _
  · exact tracks_exponentOrEnd _ _ _

/-- After its integer a number may go on or end. -/
theorem tracks_afterInteger (negative : Bool) (significand : Nat) :
    Tracks k (afterInteger negative significand) (.out []) (.out []) := by
  -- an integer that ends here takes nothing more
  have hend : Tracks k (if !negative then return .int significand
      else if significand = 0 || 0x8000000000000000 < significand then
        .float <$> decimal true significand 0
      else return .int (-significand) : Reader Number) (.out []) (.out []) := by
    split
    · exact tracks_pure _
    · split
      · exact fun c => (tracks_decimal _ _ _ c).map _
      · exact tracks_pure _
  refine tracks_peek (fun o => hend _) fun b t o => ?_
  -- a fraction, an exponent, or the end
  by_cases hpoint : b = 0x2E
  · subst hpoint
    exact (lands_fraction negative significand 0 t o).map _
  · by_cases hb : b = 0x65 ∨ b = 0x45
    · rcases hb with rfl | rfl
      · exact (lands_exponent negative significand 0 (.inl rfl) t o).map _
      · exact (lands_exponent negative significand 0 (.inr rfl) t o).map _
    · refine (?_ : Tracks k _ (.out []) (.out [])) _
      split
      · next h => exact absurd (Option.some.inj h) hpoint
      · next h => exact absurd (.inl (Option.some.inj h)) hb
      · next h => exact absurd (.inr (Option.some.inj h)) hb
      · exact hend

/-- A number after its sign, or after nothing, begins with a digit. -/
theorem lands_number (negative : Bool)
    (hgo : ∀ b t o, isDigit b = true → Goes f k ⟨b :: t, o⟩ (.out []) k ⟨t, o + 1⟩)
    (hdigit : (∃ b ∈ c.rest.head?, isDigit b = true) ∨ ¬ Good f c.rest) :
    Lands k f (.out []) c (number negative c) := by
  rcases c with ⟨rest, o⟩
  cases rest with
  | nil =>
    rcases hdigit with ⟨b, hb, -⟩ | hbad
    · cases hb
    · exact (refuses_failHere _).stuck hbad
  | cons d t =>
    rw [number, bind_ok (next_cons d t o)]
    dsimp only
    by_cases hd : isDigit d = true
    · refine .after (hgo d t o hd) ((?_ : Tracks k _ (.out []) (.out [])) _)
      -- no digit may follow a zero, while any other digit begins a run of them
      by_cases hzero : d = 0x30
      · rw [if_pos hzero]
        refine tracks_peek (fun o => tracks_afterInteger _ _ _) fun b t o => ?_
        dsimp only
        split
        · exact (refuses_failNext _).tracks resting_out _
        · exact tracks_afterInteger _ _ _
      · rw [if_neg hzero, if_pos hd]
        refine tracks_digits.bind fun ds => ?_
        -- a significand that does not fit is that of a float, whatever follows the digits
        split
        · exact tracks_afterInteger _ _
        · refine tracks_peek (fun o => (tracks_exponentOrEnd _ _ _ _).map _) fun b t o => ?_
          by_cases hpoint : b = 0x2E
          · subst hpoint
            exact (lands_fraction negative _ _ t o).map _
          · refine (?_ : Tracks k _ (.out []) (.out [])) _
            split
            · next h => exact absurd (Option.some.inj h) hpoint
            · exact fun c => (tracks_exponentOrEnd _ _ _ c).map _
    -- what is no digit was not due, so nothing is claimed of where it leads
    · have hbad : ¬ Good f (d :: t) := by
        rcases hdigit with ⟨b, hb, hdigit⟩ | hbad
        · cases hb
          exact absurd hdigit hd
        · exact hbad
      have hne : d ≠ 0x30 := by
        rintro rfl
        exact hd rfl
      rw [if_neg hne, if_neg hd]
      exact (refuses_failHere _).stuck hbad

theorem not_good_digit {b : UInt8} {t : Bytes} (hb : isDigit b = false) :
    ¬ Good (.out [.digit]) (b :: t) := not_good_due hb

/-- A number after a minus sign. -/
theorem tracks_number_true : Tracks k (number true) (.out [.digit]) (.out []) := by
  intro c
  refine lands_number true (fun b t o hb => goes_last (d := .digit) hb rfl t o) ?_
  rcases c with ⟨rest, o⟩
  cases rest with
  | nil => exact .inr nofun
  | cons b t =>
    cases hb : isDigit b with
    | true => exact .inl ⟨b, rfl, hb⟩
    | false => exact .inr (not_good_digit hb)

/-- A number without a sign. -/
theorem lands_number_false {b : UInt8} (hb : isDigit b = true) (t : Bytes) (o : Nat) :
    Lands k (.out []) (.out []) ⟨b :: t, o⟩ (number false ⟨b :: t, o⟩) :=
  lands_number false (fun _ t o hx => goes_filler (isFiller_of_isDigit hx) t o) (.inl ⟨b, rfl, hb⟩)

end TenantAuth.Json.Reader

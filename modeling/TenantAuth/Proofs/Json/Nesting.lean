import TenantAuth.Proofs.Json.Extent

/-!
# Where nested values end

Lists and objects land well when the values in them do, also where one of those is refused: then the
closing brackets are tried all the same, and never close more brackets than the value has opened.
-/
namespace TenantAuth.Json.Reader

open Text.Decimal (isDigit)

variable {α σ : Type} {k : Nat} {g : Phase} {c d : Cursor}

/-! ## Brackets -/

/-- An opening bracket is one level in. -/
theorem goes_open {b : UInt8} (hb : b = 0x5B ∨ b = 0x7B) (t : Bytes) (o : Nat) :
    Goes (.out []) k ⟨b :: t, o⟩ (.out []) (k + 1) ⟨t, o + 1⟩ := by
  rcases hb with rfl | rfl
  · exact .step rfl rfl (.refl ..)
  · exact .step rfl rfl (.refl ..)

/-- A closing bracket is one level out. -/
theorem goes_close {b : UInt8} (hb : b = 0x5D ∨ b = 0x7D) (t : Bytes) (o : Nat) :
    Goes (.out []) (k + 1) ⟨b :: t, o⟩ (.out []) k ⟨t, o + 1⟩ := by
  rcases hb with rfl | rfl
  · exact .step rfl rfl (.refl ..)
  · exact .step rfl rfl (.refl ..)

/-- Between the values in a bracket stand commas and colons. -/
theorem goes_separator {b : UInt8} (hb : b = 0x2C ∨ b = 0x3A) (t : Bytes) (o : Nat) :
    Goes (.out []) (k + 1) ⟨b :: t, o⟩ (.out []) (k + 1) ⟨t, o + 1⟩ := by
  rcases hb with rfl | rfl
  · exact .step rfl rfl (.refl ..)
  · exact .step rfl rfl (.refl ..)

/-- A byte that is no quote and no backslash leaves a string open. -/
theorem goes_inside {b : UInt8} (hquote : b ≠ 0x22) (hslash : b ≠ 0x5C) (t : Bytes) (o : Nat) :
    Goes .str k ⟨b :: t, o⟩ .str k ⟨t, o + 1⟩ := by
  have hgo := goes_str (k := k) (b := b) t o
  rwa [if_neg hquote, if_neg hslash] at hgo

/-- A blank starts neither a string nor an escape. -/
theorem ne_of_isBlank {b : UInt8} (hb : isBlank b = true) : b ≠ 0x22 ∧ b ≠ 0x5C := by
  have each : ∀ b : UInt8, isBlank b = true → b ≠ 0x22 ∧ b ≠ 0x5C :=
    Text.forall_byte (by decide +kernel)
  exact each b hb

/-- Blanks are passed over in any resting phase. -/
theorem goes_atToken_of_resting {h : Phase} (hh : h.Resting) (c : Cursor) :
    Goes h k c h k (atToken c) := by
  rcases hh with rfl | rfl
  · exact goes_atToken c
  · exact goes_dropWhile (fun b t o hb => goes_inside (ne_of_isBlank hb).1 (ne_of_isBlank hb).2 t o)
      c.rest c.offset

/-- What the end of a list or an object does: it takes the closing bracket, or it is refused before
the next token or after a comma. -/
inductive Closing (c : Cursor) : Except Refusal Unit × Cursor → Prop
  | refused (e : Refusal) : Closing c (.error e, atToken c)
  | closed {b : UInt8} {t : Bytes} {o : Nat} (htoken : atToken c = ⟨b :: t, o⟩)
      (hb : b = 0x5D ∨ b = 0x7D) : Closing c (.ok (), ⟨t, o + 1⟩)
  | comma {t : Bytes} {o : Nat} (htoken : atToken c = ⟨0x2C :: t, o⟩) (e : Refusal) :
      Closing c (.error e, atToken ⟨t, o + 1⟩)

/-- What follows depends on the next token. -/
theorem closing_peekToken {F : Option UInt8 → Reader Unit} (hnone : Refuses (F none))
    (hsome : ∀ b t o, atToken c = ⟨b :: t, o⟩ → Closing c (F (some b) ⟨b :: t, o⟩)) :
    Closing c ((peekToken >>= F) c) := by
  rw [bind_peekToken]
  rcases htoken : atToken c with ⟨rest, o⟩
  cases rest with
  | nil =>
    obtain ⟨e, he⟩ := hnone ⟨[], o⟩
    change Closing c (F none ⟨[], o⟩)
    rw [he, ← htoken]
    exact .refused e
  | cons b t => exact hsome b t o htoken

/-- A refusal before the closing bracket is one of the ways to end. -/
theorem Closing.of_refuses {r : Reader Unit} (hr : Refuses r) {e : Cursor} (he : atToken c = e) :
    Closing c (r e) := by
  obtain ⟨refusal, hrefusal⟩ := hr e
  rw [hrefusal, ← he]
  exact .refused refusal

/-- After a comma the end is refused, whatever the next token. -/
theorem closing_comma {F : Option UInt8 → Reader Unit} {t : Bytes} {o : Nat}
    (htoken : atToken c = ⟨0x2C :: t, o⟩) (hF : ∀ next, Refuses (F next)) :
    Closing c ((peekToken >>= F) ⟨t, o + 1⟩) := by
  rw [bind_peekToken]
  obtain ⟨e, he⟩ := hF (atToken ⟨t, o + 1⟩).rest.head? (atToken ⟨t, o + 1⟩)
  exact he ▸ .comma htoken e

/-- The end of an object is its brace. -/
theorem closing_endObject (c : Cursor) : Closing c (endObject c) := by
  refine closing_peekToken (refuses_failNext _) fun b t o htoken => ?_
  dsimp only
  by_cases hb : b = 0x7D
  · rw [if_pos hb]
    exact .closed htoken (.inr hb)
  · rw [if_neg hb]
    split
    · exact .of_refuses (refuses_failNext _) htoken
    · exact .of_refuses (refuses_failNext _) htoken

/-- The end of a list is its bracket, unless a comma misleads the reader. -/
theorem closing_endList (c : Cursor) : Closing c (endList c) := by
  refine closing_peekToken (refuses_failNext _) fun b t o htoken => ?_
  dsimp only
  by_cases hb : b = 0x5D
  · rw [if_pos hb]
    exact .closed htoken (.inl hb)
  · rw [if_neg hb]
    -- after a comma the reader looks at the next token only to say what is wrong
    by_cases hcomma : b = 0x2C
    · rw [if_pos hcomma, bind_ok (advance_cons b t o)]
      subst hcomma
      refine closing_comma htoken fun next => ?_
      split
      · exact refuses_failNext _
      · exact refuses_failNext _
    · rw [if_neg hcomma]
      exact .of_refuses (refuses_failNext _) htoken

/-- The end of a value in brackets closes them. -/
theorem Closing.goes_ok {c d : Cursor} (h : Closing c (.ok (), d)) :
    Goes (.out []) (k + 1) c (.out []) k d := by
  cases h with
  | closed htoken hb =>
    exact (goes_token htoken).trans (goes_close hb _ _)

/-- Wherever a value in brackets was left, its end closes no more than them. -/
theorem Closing.goes_any {c d : Cursor} {result : Except Refusal Unit} (h : Closing c (result, d))
    {f : Phase} {j : Nat} (hf : f.Resting) (hj : k + 1 ≤ j) :
    ∃ f' i, f'.Resting ∧ k ≤ i ∧ Goes f j c f' i d := by
  have hblanks := goes_atToken_of_resting (k := j) hf c
  -- at least the brackets of the value itself are open
  obtain ⟨i, rfl⟩ : ∃ i, j = i + 1 := ⟨j - 1, by omega⟩
  cases h with
  | refused e => exact ⟨f, i + 1, hf, by omega, hblanks⟩
  | @closed b t o htoken hb =>
    rw [htoken] at hblanks
    rcases hf with rfl | rfl
    · exact ⟨.out [], i, resting_out, by omega, hblanks.trans (goes_close hb t o)⟩
    -- inside a string what looks like the closing bracket closes nothing
    · refine ⟨.str, i + 1, resting_str, by omega, hblanks.trans (goes_inside ?_ ?_ t o)⟩
      · rcases hb with rfl | rfl <;> decide
      · rcases hb with rfl | rfl <;> decide
  | @comma t o htoken e =>
    rw [htoken] at hblanks
    rcases hf with rfl | rfl
    · exact ⟨.out [], i + 1, resting_out, by omega, (hblanks.trans
        (goes_separator (.inl rfl) t o)).trans (goes_atToken_of_resting resting_out _)⟩
    · exact ⟨.str, i + 1, resting_str, by omega, (hblanks.trans
        (goes_inside (by decide) (by decide) t o)).trans (goes_atToken_of_resting resting_str _)⟩

/-- A value in brackets lands well if what is in them does. -/
theorem lands_bracketed {body : Reader α} {close : Reader Unit}
    (hbody : Tracks (k + 1) body (.out []) (.out [])) (hclose : ∀ c, Closing c (close c))
    {b : UInt8} (hb : b = 0x5B ∨ b = 0x7B) (t : Bytes) (o : Nat) :
    Lands k (.out []) (.out []) ⟨b :: t, o⟩ (closedBy body close ⟨t, o + 1⟩) := by
  have hopen := goes_open (k := k) hb t o
  have hinner := hbody ⟨t, o + 1⟩
  rcases hresult : body ⟨t, o + 1⟩ with ⟨result, c₁⟩
  -- the end is tried wherever the body was left, also after it was refused
  have hclosing := hclose c₁
  rcases hend : close c₁ with ⟨closed, c₂⟩
  rw [hend] at hclosing
  rw [hresult] at hinner
  cases result with
  | ok a =>
    have hgo := hopen.trans (hinner.ok rfl)
    cases closed with
    | ok u =>
      rw [closedBy_ok hresult hend]
      exact .of_ok (hgo.trans hclosing.goes_ok)
    | error e =>
      have hout : closedBy body close ⟨t, o + 1⟩ = (.error e, c₂) := by
        simp only [Reader.closedBy, hresult, hend]
      obtain ⟨f', i, hrest, hle, hafter⟩ := hclosing.goes_any resting_out (Nat.le_refl (k + 1))
      rw [hout]
      exact .of_error hrest hle (hgo.trans hafter)
  | error e =>
    have hout : closedBy body close ⟨t, o + 1⟩ = (.error e, c₂) := by
      simp only [Reader.closedBy, hresult, hend]
    rw [hout]
    -- the body is refused, and the brackets are closed from wherever it was left
    refine .of_left fun hgood => ?_
    obtain ⟨f', j, hrest, hle, hgo⟩ := hinner.error rfl (hopen.good_iff.1 hgood)
    obtain ⟨f'', i, hrest', hle', hafter⟩ := hclosing.goes_any hrest hle
    exact ⟨f'', i, hrest', hle', hopen.trans (hgo.trans hafter)⟩

/-! ## Lists and objects -/

/-- Looking for another item passes over a comma at most. -/
theorem tracks_hasItem (first : Bool) : Tracks (k + 1) (hasItem first) (.out []) (.out []) := by
  refine tracks_peekToken (fun o => (refuses_failNext _).tracks resting_out _) fun b t o => ?_
  dsimp only
  split
  · exact tracks_pure _ _
  · split
    · exact tracks_pure _ _
    -- a comma is taken even if the list ends right after it and is refused
    · by_cases hcomma : b = 0x2C
      · rw [if_pos hcomma, bind_ok (advance_cons b t o)]
        refine .after (goes_separator (.inl hcomma) t o) (tracks_peekToken (fun o => ?_)
          (fun b t o => ?_) _)
        · exact (refuses_failNext _).tracks resting_out _
        · dsimp only
          split
          · exact (refuses_failNext _).tracks resting_out _
          · exact tracks_pure _ _
      · rw [if_neg hcomma]
        exact (refuses_failNext _).tracks resting_out _

/-- The items are read one after the other, all on one level. -/
theorem tracks_items {item : Reader α} (hitem : Tracks (k + 1) item (.out []) (.out [])) :
    ∀ (n : Nat) (read : List α), Tracks (k + 1) (items item n read) (.out []) (.out [])
  | 0, read => (refuses_failNext _).tracks resting_out
  | n + 1, read => by
    -- the induction is on the fuel, one item a step
    refine (tracks_hasItem read.isEmpty).bind fun more => ?_
    cases more with
    | true => exact (hitem.within _).bind fun a => tracks_items hitem n (a :: read)
    | false => exact tracks_pure _

theorem tracks_hasMember (first : Bool) : Tracks (k + 1) (hasMember first) (.out []) (.out []) := by
  refine tracks_peekToken (fun o => (refuses_failNext _).tracks resting_out _) fun b t o => ?_
  dsimp only
  split
  · exact tracks_pure _ _
  · split
    · split
      · exact tracks_pure _ _
      · exact (refuses_failNext _).tracks resting_out _
    · by_cases hcomma : b = 0x2C
      · rw [if_pos hcomma, bind_ok (advance_cons b t o)]
        refine .after (goes_separator (.inl hcomma) t o) (tracks_peekToken (fun o => ?_)
          (fun b t o => ?_) _)
        · exact (refuses_failNext _).tracks resting_out _
        · dsimp only
          split
          · exact tracks_pure _ _
          · split
            · exact (refuses_failNext _).tracks resting_out _
            · exact (refuses_failNext _).tracks resting_out _
      · rw [if_neg hcomma]
        exact (refuses_failNext _).tracks resting_out _

/-- Either the members are over, or another one begins with a quote, after a comma unless it is the
first one. -/
theorem hasMember_eq_ok {first more : Bool} {c d : Cursor} (h : hasMember first c = (.ok more, d)) :
    (more = false ∧ d = atToken c) ∨ more = true ∧ ∃ t o, d = ⟨0x22 :: t, o⟩ ∧
      ((first = true ∧ atToken c = d) ∨
        first = false ∧ ∃ t' o', atToken c = ⟨0x2C :: t', o'⟩ ∧ atToken ⟨t', o' + 1⟩ = d) := by
  obtain ⟨b, t, o, htoken, h⟩ := peekToken_eq_ok (refuses_failNext _) h
  rw [htoken]
  dsimp only at h
  by_cases hbrace : b = 0x7D
  · rw [if_pos hbrace] at h
    cases h
    exact .inl ⟨rfl, rfl⟩
  rw [if_neg hbrace] at h
  -- the first name comes at once, and every other one after a comma
  cases first with
  | true =>
    rw [if_pos rfl] at h
    by_cases hquote : b = 0x22
    · rw [if_pos hquote] at h
      cases h
      exact .inr ⟨rfl, t, o, by rw [hquote], .inl ⟨rfl, rfl⟩⟩
    · rw [if_neg hquote] at h
      cases h
  | false =>
    rw [if_neg nofun] at h
    by_cases hcomma : b = 0x2C
    · rw [if_pos hcomma, bind_ok (advance_cons b t o)] at h
      obtain ⟨b', t', o', htoken', h⟩ := peekToken_eq_ok (refuses_failNext _) h
      dsimp only at h
      by_cases hquote : b' = 0x22
      · rw [if_pos hquote] at h
        cases h
        exact .inr ⟨rfl, t', o', by rw [hquote], .inr ⟨rfl, t, o, by rw [hcomma], htoken'⟩⟩
      · rw [if_neg hquote] at h
        split at h
        · cases h
        · cases h
    · rw [if_neg hcomma] at h
      cases h

/-- The colon is passed over. -/
theorem tracks_colon : Tracks (k + 1) colon (.out []) (.out []) := by
  refine tracks_peekToken (fun o => (refuses_failNext _).tracks resting_out _) fun b t o => ?_
  dsimp only
  by_cases hcolon : b = 0x3A
  · rw [if_pos hcolon]
    exact .after (goes_separator (.inr hcolon) t o) (.of_ok (.refl ..))
  · rw [if_neg hcolon]
    exact (refuses_failNext _).tracks resting_out _

/-- A quote leads into a string. -/
theorem goes_quote (t : Bytes) (o : Nat) :
    Goes (.out []) k ⟨0x22 :: t, o⟩ .str k ⟨t, o + 1⟩ :=
  .one rfl (nest_of_not_bracket (b := 0x22) (by decide))

/-- The value of a member is read after its colon. -/
theorem tracks_memberValue (name : String) {value : Reader α}
    (hvalue : Tracks (k + 1) value (.out []) (.out [])) :
    Tracks (k + 1) (memberValue name value) (.out []) (.out []) :=
  tracks_colon.bind fun _ => hvalue.within _

/-- The members are read one after the other, all on one level. -/
theorem tracks_members {member : σ → String → Reader σ}
    (hmember : ∀ s name, Tracks (k + 1) (member s name) (.out []) (.out [])) :
    ∀ (n : Nat) (first : Bool) (s : σ),
      Tracks (k + 1) (members member n first s) (.out []) (.out [])
  | 0, first, s => (refuses_failNext _).tracks resting_out
  | n + 1, first, s => by
    intro c
    refine (tracks_hasMember first c).bind fun more d hmore => ?_
    cases more with
    | false => exact tracks_pure _ _
    | true =>
      -- the reader has looked ahead, so it stands at the quote of the name
      obtain ⟨hfalse, -⟩ | ⟨-, t, o, rfl, -⟩ := hasMember_eq_ok hmore
      · cases hfalse
      rw [if_pos rfl, bind_ok (advance_cons _ t o)]
      refine .after (goes_quote t o) ((tracks_stringText.bind fun name => ?_) _)
      exact (hmember s name).bind fun s => tracks_members hmember n false s

/-! ## Values of known types -/

/-- A word and what is read after it. -/
theorem lands_word {b : UInt8} {w : Bytes} {r : Reader α}
    (hb : (b, w) ∈ ([(0x6E, [0x75, 0x6C, 0x6C]), (0x74, [0x72, 0x75, 0x65]),
      (0x66, [0x61, 0x6C, 0x73, 0x65])] : List (UInt8 × Bytes)))
    (hr : Tracks k r (.out []) g) (t : Bytes) (o : Nat) :
    Lands k (.out []) g ⟨b :: t, o⟩
      ((do advance; ident w; r : Reader α) ⟨b :: t, o⟩) := by
  have hword : Goes (.out []) k ⟨b :: t, o⟩ (.out (w.map Due.letter)) k ⟨t, o + 1⟩ ∧
      Tracks k (ident w) (.out (w.map Due.letter)) (.out []) := by
    simp only [List.mem_cons, Prod.mk.injEq, List.not_mem_nil, or_false] at hb
    rcases hb with ⟨rfl, rfl⟩ | ⟨rfl, rfl⟩ | ⟨rfl, rfl⟩
    · exact ⟨goes_out rfl (by decide) t o, tracks_word (by decide)⟩
    · exact ⟨goes_out rfl (by decide) t o, tracks_word (by decide)⟩
    · exact ⟨goes_out rfl (by decide) t o, tracks_word (by decide)⟩
  rw [bind_ok (advance_cons b t o)]
  exact .after hword.1 ((hword.2.bind fun _ => hr) _)

/-- A minus sign, a number and what is made of it. -/
theorem lands_minus {F : Number → Reader α} (hF : ∀ n, Tracks k (F n) (.out []) g) (t : Bytes)
    (o : Nat) :
    Lands k (.out []) g ⟨0x2D :: t, o⟩
      ((do advance; F (← number true) : Reader α) ⟨0x2D :: t, o⟩) := by
  rw [bind_ok (advance_cons _ t o)]
  exact .after (goes_minus t o) ((tracks_number_true.bind hF) _)

/-- A digit begins a number. -/
theorem lands_digit {F : Number → Reader α} (hF : ∀ n, Tracks k (F n) (.out []) g) {b : UInt8}
    (hb : isDigit b = true) (t : Bytes) (o : Nat) :
    Lands k (.out []) g ⟨b :: t, o⟩ ((do F (← number false) : Reader α) ⟨b :: t, o⟩) :=
  (lands_number_false hb t o).bind fun n d _ => hF n d

/-- A quote, a string and what is made of it. -/
theorem lands_quote {F : String → Reader α} (hF : ∀ s, Tracks k (F s) (.out []) g) (t : Bytes)
    (o : Nat) :
    Lands k (.out []) g ⟨0x22 :: t, o⟩
      ((do advance; F (← stringText) : Reader α) ⟨0x22 :: t, o⟩) := by
  rw [bind_ok (advance_cons _ t o)]
  exact .after (goes_quote t o) ((tracks_stringText.bind hF) _)

/-- A value is a word, a number or a string, or whatever else its first byte begins. -/
theorem lands_value {null yes no other : Reader α} {ofNumber : Number → Reader α}
    {ofString : String → Reader α} (hnull : Tracks k null (.out []) g)
    (hyes : Tracks k yes (.out []) g) (hno : Tracks k no (.out []) g)
    (hnumber : ∀ n, Tracks k (ofNumber n) (.out []) g)
    (hstring : ∀ s, Tracks k (ofString s) (.out []) g) {b : UInt8} {t : Bytes} {o : Nat}
    (hother : Lands k (.out []) g ⟨b :: t, o⟩ (other ⟨b :: t, o⟩)) :
    Lands k (.out []) g ⟨b :: t, o⟩
      ((if b = 0x6E then do advance; ident [0x75, 0x6C, 0x6C]; null
        else if b = 0x74 then do advance; ident [0x72, 0x75, 0x65]; yes
        else if b = 0x66 then do advance; ident [0x61, 0x6C, 0x73, 0x65]; no
        else if b = 0x2D then do advance; ofNumber (← number true)
        else if isDigit b then do ofNumber (← number false)
        else if b = 0x22 then do advance; ofString (← stringText)
        else other : Reader α) ⟨b :: t, o⟩) := by
  by_cases hn : b = 0x6E
  · rw [if_pos hn]
    exact lands_word (by rw [hn]; decide) hnull t o
  rw [if_neg hn]
  by_cases ht : b = 0x74
  · rw [if_pos ht]
    exact lands_word (by rw [ht]; decide) hyes t o
  rw [if_neg ht]
  by_cases hf : b = 0x66
  · rw [if_pos hf]
    exact lands_word (by rw [hf]; decide) hno t o
  rw [if_neg hf]
  by_cases hminus : b = 0x2D
  · rw [if_pos hminus]
    subst hminus
    exact lands_minus hnumber t o
  rw [if_neg hminus]
  by_cases hdigit : isDigit b = true
  · rw [if_pos hdigit]
    exact lands_digit hnumber hdigit t o
  rw [if_neg hdigit]
  by_cases hquote : b = 0x22
  · rw [if_pos hquote]
    subst hquote
    exact lands_quote hstring t o
  · rw [if_neg hquote]
    exact hother

/-- A value of another type is passed over before it is refused. -/
theorem tracks_wrongType (expected : String) :
    Tracks k (wrongType expected : Reader α) (.out []) (.out []) := by
  have hdata : ∀ {fault : Fault}, Tracks k (failData fault : Reader α) (.out []) (.out []) :=
    (refuses_failData _).tracks resting_out
  refine Tracks.located (tracks_peekToken (fun o => ?_) fun b t o => ?_)
  · exact (refuses_failNext _).tracks resting_out _
  · -- a scalar is read to its end to be named in the refusal, a bracket is refused at once
    refine lands_value hdata hdata hdata (fun _ => hdata) (fun _ => hdata) ?_
    split
    · exact hdata _
    · split
      · exact hdata _
      · exact (refuses_failNext _).tracks resting_out _

/-- A value of the wrong type is always refused. -/
theorem wrongType_ne_ok {expected : String} {a : α} :
    (wrongType expected : Reader α) c ≠ (.ok a, d) := by
  intro h
  obtain ⟨b, t, o, -, hinner⟩ := peekToken_eq_ok (refuses_failNext _) (located_eq_ok h)
  dsimp only at hinner
  -- whatever was read, what follows is a refusal
  have hword : ∀ {w : Bytes} {fault : Fault},
      (do advance; ident w; failData fault : Reader α) ⟨b :: t, o⟩ ≠ (.ok a, d) := by
    intro w fault h
    obtain ⟨_, e, -, h⟩ := bind_eq_ok h
    obtain ⟨_, e, -, h⟩ := bind_eq_ok h
    cases h
  split at hinner
  · exact hword hinner
  split at hinner
  · exact hword hinner
  split at hinner
  · exact hword hinner
  split at hinner
  · rw [bind_ok (advance_cons b t o)] at hinner
    obtain ⟨n, e, -, h⟩ := bind_eq_ok hinner
    cases h
  split at hinner
  · obtain ⟨n, e, -, h⟩ := bind_eq_ok hinner
    cases h
  split at hinner
  · rw [bind_ok (advance_cons b t o)] at hinner
    obtain ⟨n, e, -, h⟩ := bind_eq_ok hinner
    cases h
  split at hinner
  · cases hinner
  split at hinner
  · cases hinner
  · cases hinner

/-- A string is read from quote to quote. -/
theorem tracks_string : Tracks k string (.out []) (.out []) := by
  refine Tracks.located (tracks_peekToken (fun o => ?_) fun b t o => ?_)
  · exact (refuses_failNext _).tracks resting_out _
  · dsimp only
    by_cases hquote : b = 0x22
    · rw [if_pos hquote, bind_ok (advance_cons b t o)]
      subst hquote
      exact .after (goes_quote t o) (tracks_stringText _)
    · rw [if_neg hquote]
      exact tracks_wrongType _ _

/-- An optional value is the word `null` or the value. -/
theorem tracks_optional {r : Reader α} (hr : Tracks k r (.out []) (.out [])) :
    Tracks k (Reader.optional r) (.out []) (.out []) := by
  have hmap : Tracks k (some <$> r) (.out []) (.out []) := fun c => (hr c).map some
  refine tracks_peekToken (fun o => hmap _) fun b t o => ?_
  by_cases hn : b = 0x6E
  · subst hn
    exact lands_word (by decide) (tracks_pure none) t o
  · refine (?_ : Tracks k _ (.out []) (.out [])) _
    split
    · next h => exact absurd (Option.some.inj h) hn
    · exact hmap

/-- What is made of a number where an integer between `lo` and `hi` is expected. -/
def checked (lo hi : Int) (expected : String) : Number → Reader Int
  | .float x => failData (.invalidType (.float x) expected)
  | .int n => if lo ≤ n ∧ n ≤ hi then return n else failData (.invalidValue (.int n) expected)

/-- Checking the bounds of a number takes nothing. -/
theorem tracks_checked (lo hi : Int) (expected : String) (x : Number) :
    Tracks k (checked lo hi expected x) (.out []) (.out []) := by
  cases x with
  | float x => exact (refuses_failData _).tracks resting_out
  | int n =>
    rw [checked]
    split
    · exact tracks_pure _
    · exact (refuses_failData _).tracks resting_out

theorem checked_eq_ok {lo hi n : Int} {expected : String} {x : Number}
    (h : checked lo hi expected x c = (.ok n, d)) : x = .int n ∧ d = c := by
  cases x with
  | float x => cases h
  | int n' =>
    rw [checked] at h
    split at h
    · cases h
      exact ⟨rfl, rfl⟩
    · cases h

/-- An integer is read as a number is. -/
theorem tracks_integer (lo hi : Int) (expected : String) :
    Tracks k (integer lo hi expected) (.out []) (.out []) := by
  refine Tracks.located (tracks_peekToken (fun o => ?_) fun b t o => ?_)
  · exact (refuses_failNext _).tracks resting_out _
  · dsimp only
    -- what begins as a number is read as one and then checked; all else is of another type
    by_cases hminus : b = 0x2D
    · rw [if_pos hminus]
      subst hminus
      exact lands_minus (tracks_checked lo hi expected) t o
    rw [if_neg hminus]
    by_cases hdigit : isDigit b = true
    · rw [if_pos hdigit]
      exact lands_digit (tracks_checked lo hi expected) hdigit t o
    · rw [if_neg hdigit]
      exact tracks_wrongType _ _

/-- A list is read from bracket to bracket. -/
theorem tracks_list {item : Reader α} (hitem : ∀ k, Tracks k item (.out []) (.out [])) :
    Tracks k (list item) (.out []) (.out []) := by
  refine Tracks.located (tracks_peekToken (fun o => ?_) fun b t o => ?_)
  · exact (refuses_failNext _).tracks resting_out _
  · dsimp only
    by_cases hb : b = 0x5B
    · rw [if_pos hb, bind_ok (advance_cons b t o)]
      exact lands_bracketed (tracks_stepsLeft.bind fun n => tracks_items (hitem _) n [])
        closing_endList (.inl hb) t o
    · rw [if_neg hb]
      exact tracks_wrongType _ _

theorem tracks_unit : Tracks k unit (.out []) (.out []) := by
  refine Tracks.located (tracks_peekToken (fun o => ?_) fun b t o => ?_)
  · exact (refuses_failNext _).tracks resting_out _
  · dsimp only
    by_cases hn : b = 0x6E
    · rw [if_pos hn, bind_ok (advance_cons b t o)]
      subst hn
      exact .after (goes_out rfl (by decide) t o) (tracks_word (by decide) _)
    · rw [if_neg hn]
      exact tracks_wrongType _ _

/-- The name of a variant is read as a string is. -/
theorem tracks_variantName (known : List (String × α)) :
    Tracks k (variantName known) (.out []) (.out []) := by
  refine Tracks.located (tracks_peekToken (fun o => ?_) fun b t o => ?_)
  · exact (refuses_failNext _).tracks resting_out _
  · dsimp only
    by_cases hquote : b = 0x22
    · rw [if_pos hquote]
      subst hquote
      refine lands_quote (fun name => ?_) t o
      -- an unknown name is refused after the string, outside of it
      cases known.lookup name with
      | some a => exact tracks_pure a
      | none => exact (refuses_failData _).tracks resting_out
    · rw [if_neg hquote]
      exact tracks_wrongType _ _

/-- The closing brace of a variant that is written as an object. -/
def closeVariant (a : α) : Option UInt8 → Reader α
  | none => failHere .eofObject
  | some 0x7D => do advance; return a
  | some _ => failHere .expectedValue

/-- A variant in braces ends with its brace. -/
theorem goes_closeVariant {a a' : α} (h : (peekToken >>= closeVariant a) c = (.ok a', d)) :
    Goes (.out []) (k + 1) c (.out []) k d := by
  obtain ⟨b, t, o, htoken, h⟩ := peekToken_eq_ok (refuses_failHere _) h
  refine (goes_token htoken).trans ?_
  by_cases hclose : b = 0x7D
  · subst hclose
    cases h
    exact goes_close (.inr rfl) t o
  -- the last pattern matches any byte, so the brace is ruled out case by case
  · have hrefuses : Refuses (closeVariant a (some b)) := by
      unfold closeVariant
      split
      · exact refuses_failHere _
      · next heq => exact absurd (Option.some.inj heq) hclose
      · exact refuses_failHere _
    obtain ⟨e, he⟩ := hrefuses ⟨b :: t, o⟩
    cases he.symm.trans h

/-- A variant that is read, by its name or as an object, ends where its braces are closed. -/
theorem goes_variant {known : List (String × α)} {a : α} (h : variant known c = (.ok a, d)) :
    Goes (.out []) k c (.out []) k d := by
  obtain ⟨b, t, o, htoken, hinner⟩ := peekToken_eq_ok (refuses_failNext _) (located_eq_ok h)
  refine (goes_token htoken).trans ?_
  dsimp only at hinner
  by_cases hbrace : b = 0x7B
  · rw [if_pos hbrace, bind_ok (advance_cons b t o)] at hinner
    obtain ⟨a', c₁, hname, hinner⟩ := bind_eq_ok hinner
    obtain ⟨_, c₂, hcolon, hinner⟩ := bind_eq_ok hinner
    obtain ⟨_, c₃, hunit, hinner⟩ := bind_eq_ok hinner
    -- the name, the colon and the `null` inside the braces
    have hbody : Goes (.out []) k ⟨b :: t, o⟩ (.out []) (k + 1) c₃ :=
      (((goes_open (.inr hbrace) t o).trans (tracks_variantName known _ |>.ok hname)).trans
        (tracks_colon _ |>.ok hcolon)).trans (tracks_unit _ |>.ok hunit)
    exact hbody.trans (goes_closeVariant hinner)
  · rw [if_neg hbrace] at hinner
    split at hinner
    · exact tracks_variantName known _ |>.ok hinner
    · cases hinner

/-- A value lands well, at whatever depth it is refused. -/
theorem tracks_valueWith (put : String → Json → List (String × Json) → List (String × Json)) :
    ∀ (depth : Nat) {k : Nat}, Tracks k (valueWith put depth) (.out []) (.out [])
  | 0, k => (refuses_failNext _).tracks resting_out
  | depth + 1, k => by
    refine tracks_peekToken (fun o => ?_) fun b t o => ?_
    · exact (refuses_failNext _).tracks resting_out _
    refine lands_value (tracks_pure _) (tracks_pure _) (tracks_pure _) (fun _ => tracks_pure _)
      (fun _ => tracks_pure _) ?_
    -- the induction is on the depth: what the brackets hold has one level less
    by_cases hlist : b = 0x5B
    · rw [if_pos hlist]
      split
      · exact (refuses_failNext _).tracks resting_out _
      · rw [bind_ok (advance_cons b t o)]
        exact (lands_bracketed (tracks_stepsLeft.bind fun n =>
            tracks_items (tracks_valueWith put depth) n [])
          closing_endList (.inl hlist) t o).bind fun vs d _ => tracks_pure _ d
    rw [if_neg hlist]
    by_cases hobject : b = 0x7B
    · rw [if_pos hobject]
      split
      · exact (refuses_failNext _).tracks resting_out _
      · rw [bind_ok (advance_cons b t o)]
        exact (lands_bracketed (tracks_stepsLeft.bind fun n =>
            tracks_members (fun ms name => (tracks_memberValue name
              (tracks_valueWith put depth)).bind fun v => tracks_pure _) n true [])
          closing_endObject (.inr hobject) t o).bind fun ms d _ => tracks_pure _ d
    · rw [if_neg hobject]
      exact (refuses_failNext _).tracks resting_out _

end TenantAuth.Json.Reader

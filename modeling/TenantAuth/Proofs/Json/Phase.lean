import TenantAuth.Proofs.Json.Steps

/-!
# Phases of a text

Where a byte of a JSON text stands: outside the strings, with some bytes due that finish a word or a
number, or inside a string, perhaps in the middle of an escape. `Phase.step` tells the phase after a
byte, `Good` that the phases of a text go through to its end, and `Goes` follows them from one
cursor to another together with the number of brackets that are open. A reader `Lands` well if it
succeeds where its value ends, and fails at a place from which the phases can still be followed.
-/
namespace TenantAuth.Json.Reader

open Text.Decimal (isDigit)

/-! ## Phases -/

/-- A byte that has to come next, outside the strings. -/
inductive Due where
  | letter (b : UInt8)
  | digit
  | signOrDigit
  deriving DecidableEq

namespace Due

/-- The byte is one of those that are due. -/
def allows : Due → UInt8 → Bool
  | letter x, b => b = x && (0x61 ≤ b && b ≤ 0x7A)
  | digit, b => isDigit b
  | signOrDigit, b => isDigit b || b = 0x2B || b = 0x2D

/-- What is due after the byte: a sign wants a digit. -/
def after : Due → UInt8 → List Due
  | signOrDigit, b => if isDigit b then [] else [digit]
  | _, _ => []

end Due

/-- Where a byte stands. -/
inductive Phase where
  /-- Outside the strings, where the bytes in the list are due. -/
  | out (due : List Due)
  /-- Inside a string. -/
  | str
  /-- After a backslash. -/
  | esc
  /-- Before the last `n + 1` digits of an escape. -/
  | hex (n : Nat)
  deriving DecidableEq

/-- What a byte outside the strings makes due, if it may stand there. -/
def dueAfter (b : UInt8) : Option (List Due) :=
  if b = 0x6E then some [.letter 0x75, .letter 0x6C, .letter 0x6C]
  else if b = 0x74 then some [.letter 0x72, .letter 0x75, .letter 0x65]
  else if b = 0x66 then some [.letter 0x61, .letter 0x6C, .letter 0x73, .letter 0x65]
  else if b = 0x2D then some [.digit]
  else if b = 0x65 ∨ b = 0x45 then some [.signOrDigit]
  else if isDigit b || isBlank b || b ∈ [0x2E, 0x2C, 0x3A, 0x5B, 0x5D, 0x7B, 0x7D] then some []
  else none

/-- The phase after a digit of an escape. -/
def Phase.afterDigit : Nat → Phase
  | 0 => .str
  | n + 1 => .hex n

/-- The phase after a byte. -/
def Phase.step : Phase → UInt8 → Option Phase
  | .out [], b => if b = 0x22 then some .str else (dueAfter b).map .out
  | .out (d :: ds), b => if d.allows b then some (.out (d.after b ++ ds)) else none
  | .str, b => some (if b = 0x22 then .out [] else if b = 0x5C then .esc else .str)
  | .esc, b => some (if b = 0x75 then .hex 3 else .str)
  | .hex n, b => if (hexValue? b).isSome then some (afterDigit n) else none

/-- The phases of a text go through from `f` to its end, where nothing is due. -/
def Good : Phase → Bytes → Prop
  | f, [] => f = .out []
  | f, b :: t => match f.step b with
    | some f' => Good f' t
    | none => False

/-- A text goes through if its first byte does and the rest does from there. -/
theorem good_cons {f f' : Phase} {b : UInt8} {t : Bytes} (h : f.step b = some f') :
    Good f (b :: t) ↔ Good f' t := by
  rw [Good, h]

theorem not_good_cons {f : Phase} {b : UInt8} {t : Bytes} (h : f.step b = none) :
    ¬ Good f (b :: t) := by
  rw [Good, h]
  exact id

/-- A quote opens a string. -/
theorem good_quote {t : Bytes} : Good (.out []) (0x22 :: t) ↔ Good .str t := good_cons rfl

/-- A quote closes the string it stands in. -/
theorem good_unquote {t : Bytes} : Good .str (0x22 :: t) ↔ Good (.out []) t := good_cons rfl

theorem not_good_nil {f : Phase} (h : f ≠ .out []) : ¬ Good f [] := h

/-- A phase in which a reader may give up. -/
def Phase.Resting (f : Phase) : Prop := f = .out [] ∨ f = .str

/-! ## Nesting -/

/-- How many brackets are open after a byte outside the strings. A value ends before a comma, a
colon or a closing bracket that is not its own. -/
def nest (k : Nat) (b : UInt8) : Option Nat :=
  if b = 0x5B ∨ b = 0x7B then some (k + 1)
  else if b = 0x5D ∨ b = 0x7D then (if k = 0 then none else some (k - 1))
  else if b = 0x2C ∨ b = 0x3A then (if k = 0 then none else some k)
  else some k

/-- How many brackets are open after a byte; bytes that are due or stand in a string are none. -/
def Phase.nest (f : Phase) (k : Nat) (b : UInt8) : Option Nat :=
  if f = .out [] then Reader.nest k b else some k

/-- Brackets that are open further out do not matter. -/
theorem nest_add {k k' : Nat} {b : UInt8} (h : nest k b = some k') (j : Nat) :
    nest (k + j) b = some (k' + j) := by
  unfold nest at h ⊢
  -- an opening bracket, a closing one, a comma or colon, or any other byte
  split at h
  · cases h
    rw [if_pos ‹_›, Nat.add_right_comm]
  · rw [if_neg ‹_›]
    split at h
    · rw [if_pos ‹_›]
      split at h
      · cases h
      · cases h
        rw [if_neg (by omega)]
        congr 1
        omega
    · rw [if_neg ‹_›]
      split at h
      · rw [if_pos ‹_›]
        split at h
        · cases h
        · cases h
          rw [if_neg (by omega)]
      · rw [if_neg ‹_›]
        cases h
        rfl

/-! ## From one cursor to another -/

/-- The phases and the open brackets lead from one cursor to another. -/
inductive Goes : Phase → Nat → Cursor → Phase → Nat → Cursor → Prop
  | refl (f : Phase) (k : Nat) (c : Cursor) : Goes f k c f k c
  | step {f f₁ g : Phase} {k k₁ j : Nat} {b : UInt8} {t : Bytes} {o : Nat} {d : Cursor}
      (hphase : f.step b = some f₁) (hnest : f.nest k b = some k₁)
      (hrest : Goes f₁ k₁ ⟨t, o + 1⟩ g j d) : Goes f k ⟨b :: t, o⟩ g j d

namespace Goes

variable {f g h : Phase} {k j i : Nat} {c d e : Cursor}

/-- One way after the other is a way. -/
theorem trans (h₁ : Goes f k c g j d) (h₂ : Goes g j d h i e) : Goes f k c h i e := by
  induction h₁ with
  | refl f k c => exact h₂
  | step hphase hnest _ ih => exact .step hphase hnest (ih h₂)

/-- Inside more brackets the same bytes lead the same way. -/
theorem add (h₁ : Goes f k c g j d) (n : Nat) : Goes f (k + n) c g (j + n) d := by
  induction h₁ with
  | refl f k c => exact .refl ..
  | @step f f₁ g k k₁ j b t o d hphase hnest _ ih =>
    refine .step hphase ?_ ih
    unfold Phase.nest at hnest ⊢
    -- only bytes outside the strings with nothing due are counted as brackets
    split at hnest
    · next hout =>
      rw [if_pos hout]
      exact nest_add hnest n
    · next hout =>
      rw [if_neg hout]
      cases hnest
      rfl

/-- Whether a text is good is told as well from any place that is passed. -/
theorem good_iff (h₁ : Goes f k c g j d) : Good f c.rest ↔ Good g d.rest := by
  induction h₁ with
  | refl f k c => exact Iff.rfl
  | step hphase _ _ ih => exact (good_cons hphase).trans ih

/-- A byte that neither opens nor closes anything. -/
theorem one {f' : Phase} {b : UInt8} {t : Bytes} {o : Nat} (hphase : f.step b = some f')
    (hnest : f.nest k b = some k) : Goes f k ⟨b :: t, o⟩ f' k ⟨t, o + 1⟩ :=
  .step hphase hnest (.refl ..)

end Goes

/-! ## Where readers land -/

/-- An outcome that a reader may have at `c`: a success where the phase is `g` and as many brackets
are open as before, or, as long as the text is good, a refusal in a resting phase inside them. -/
structure Lands {α : Type} (k : Nat) (f g : Phase) (c : Cursor)
    (outcome : Except Refusal α × Cursor) : Prop where
  ok : ∀ {a d}, outcome = (.ok a, d) → Goes f k c g k d
  error : ∀ {e d}, outcome = (.error e, d) → Good f c.rest →
    ∃ h j, h.Resting ∧ k ≤ j ∧ Goes f k c h j d

/-- The reader lands well wherever it starts. -/
def Tracks {α : Type} (k : Nat) (r : Reader α) (f g : Phase) : Prop := ∀ c, Lands k f g c (r c)

section Lands

variable {α β : Type} {k : Nat} {f g h : Phase} {c d : Cursor}

/-- A success lands well where it has gone. -/
theorem Lands.of_ok {a : α} (hgo : Goes f k c g k d) :
    Lands k f g c ((.ok a, d) : Except Refusal α × Cursor) where
  ok := by
    rintro a' d' heq
    cases heq
    exact hgo
  error := nofun

/-- A refusal at a place that is reached as long as the text is good. -/
theorem Lands.of_left {e : Refusal}
    (hleft : Good f c.rest → ∃ h j, h.Resting ∧ k ≤ j ∧ Goes f k c h j d) :
    Lands k f g c ((.error e, d) : Except Refusal α × Cursor) where
  ok := nofun
  error := by
    rintro e' d' heq
    cases heq
    exact hleft

/-- A refusal on the way to where the value would end. -/
theorem Lands.of_error {e : Refusal} {j : Nat} (hrest : h.Resting) (hle : k ≤ j)
    (hgo : Goes f k c h j d) : Lands k f g c ((.error e, d) : Except Refusal α × Cursor) :=
  .of_left fun _ => ⟨h, j, hrest, hle, hgo⟩

/-- In a text that is not good any refusal will do. -/
theorem Lands.stuck {e : Refusal} (hbad : ¬ Good f c.rest) :
    Lands k f g c ((.error e, d) : Except Refusal α × Cursor) :=
  .of_left fun hgood => absurd hgood hbad

/-- Another refusal at the same place. -/
theorem Lands.reword {e e' : Refusal}
    (hland : Lands k f g c ((.error e, d) : Except Refusal α × Cursor)) :
    Lands k f h c ((.error e', d) : Except Refusal β × Cursor) :=
  .of_left (hland.error rfl)

/-- What lands well further on does so from the start of the way there. -/
theorem Lands.after {outcome : Except Refusal α × Cursor} (hgo : Goes f k c h k d)
    (hland : Lands k h g d outcome) : Lands k f g c outcome where
  ok heq := hgo.trans (hland.ok heq)
  error heq hgood := by
    -- a refusal is only to be placed in a good text, and the rest of one is good
    obtain ⟨h', j, hrest, hle, hgo'⟩ := hland.error heq (hgo.good_iff.1 hgood)
    exact ⟨h', j, hrest, hle, hgo.trans hgo'⟩

/-- One reader after the other lands well. -/
theorem Lands.bind {x : Reader α} {F : α → Reader β} (hx : Lands k f g c (x d))
    (hF : ∀ a e, x d = (.ok a, e) → Lands k g h e (F a e)) : Lands k f h c ((x >>= F) d) := by
  rcases hresult : x d with ⟨result, e⟩
  cases result with
  | ok a =>
    rw [bind_ok hresult]
    exact (hF a e hresult).after (hx.ok hresult)
  -- a refusal stops both readers at the same place
  | error refusal =>
    rw [bind_error hresult]
    rw [hresult] at hx
    exact hx.reword

theorem Lands.map {x : Reader α} (F : α → β) (hx : Lands k f g c (x d)) :
    Lands k f g c ((F <$> x) d) := by
  rw [← bind_pure_comp]
  exact hx.bind fun a e _ => .of_ok (.refl ..)

/-- Readers that track put together track. -/
theorem Tracks.bind {x : Reader α} {F : α → Reader β} (hx : Tracks k x f g)
    (hF : ∀ a, Tracks k (F a) g h) : Tracks k (x >>= F) f h :=
  fun c => (hx c).bind fun a d _ => hF a d

theorem tracks_pure (a : α) : Tracks k (pure a : Reader α) f f := fun _ => .of_ok (.refl ..)

theorem Tracks.located {r : Reader α} (hr : Tracks k r f g) : Tracks k (located r) f g := by
  intro c
  have hland := hr c
  rw [Reader.located]
  rcases hresult : r c with ⟨result, d⟩
  rw [hresult] at hland
  cases result with
  | ok a => exact hland
  | error e => exact hland.reword

theorem Tracks.within {r : Reader α} (step : Step) (hr : Tracks k r f g) :
    Tracks k (within step r) f g := by
  intro c
  have hland := hr c
  rw [Reader.within]
  rcases hresult : r c with ⟨result, d⟩
  rw [hresult] at hland
  cases result with
  | ok a => exact hland
  | error e => exact hland.reword

/-- The reader is refused where it stands. -/
def Refuses (r : Reader α) : Prop := ∀ c, ∃ e, r c = (.error e, c)

theorem refuses_failHere (fault : Fault) : Refuses (failHere fault : Reader α) :=
  fun _ => ⟨_, rfl⟩

theorem refuses_failNext (fault : Fault) : Refuses (failNext fault : Reader α) :=
  fun _ => ⟨_, rfl⟩

theorem refuses_failData (fault : Fault) : Refuses (failData fault : Reader α) :=
  fun _ => ⟨_, rfl⟩

/-- A refusal tracks where a reader may rest. -/
theorem Refuses.tracks {r : Reader α} (hr : Refuses r) (hf : f.Resting) : Tracks k r f g := by
  intro c
  obtain ⟨e, he⟩ := hr c
  rw [he]
  exact .of_error hf (Nat.le_refl k) (.refl ..)

/-- A refusal lands well where the text does not go through anyway. -/
theorem Refuses.stuck {r : Reader α} (hr : Refuses r) (hbad : ¬ Good f c.rest) :
    Lands k f g c (r d) := by
  obtain ⟨e, he⟩ := hr d
  rw [he]
  exact .stuck hbad

/-- What follows depends on the next byte. -/
theorem tracks_peek {F : Option UInt8 → Reader α}
    (hnone : ∀ o, Lands k f g ⟨[], o⟩ (F none ⟨[], o⟩))
    (hsome : ∀ b t o, Lands k f g ⟨b :: t, o⟩ (F (some b) ⟨b :: t, o⟩)) :
    Tracks k (peek >>= F) f g
  | ⟨[], o⟩ => hnone o
  | ⟨b :: t, o⟩ => hsome b t o

/-- A reader that takes a byte tracks if it does for every byte, and without one. -/
theorem tracks_next {F : Option UInt8 → Reader α}
    (hnone : ∀ o, Lands k f g ⟨[], o⟩ (F none ⟨[], o⟩))
    (hsome : ∀ b t o, Lands k f g ⟨b :: t, o⟩ (F (some b) ⟨t, o + 1⟩)) :
    Tracks k (next >>= F) f g
  | ⟨[], o⟩ => hnone o
  | ⟨b :: t, o⟩ => hsome b t o

end Lands

end TenantAuth.Json.Reader

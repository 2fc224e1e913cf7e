import TenantAuth.Json.Record

/-!
# Steps of a reader

What a reader makes of a cursor, for each of the single steps and for the ways to put steps
together. `Reads r t a` says that `r` takes exactly the text `t` as the value `a`; `bind_ok` and
its kin carry such facts through a reader step by step, and `bind_eq_ok` takes the success of a
reader apart again.
-/
namespace TenantAuth.Json.Reader

variable {α β σ : Type}

/-! ## Putting steps together -/

/-- A sequence of two steps stops at the first refusal. -/
theorem bind_apply (x : Reader α) (f : α → Reader β) (c : Cursor) :
    (x >>= f) c = match x c with
      | (.ok a, c') => f a c'
      | (.error e, c') => (.error e, c') := by
  show (ExceptT.bind x f) c = _
  simp only [ExceptT.bind, ExceptT.mk, bind, StateT.bind]
  -- what the first step came to decides, not how
  generalize x c = y
  obtain ⟨r, c'⟩ := y
  cases r <;> rfl

theorem pure_apply (a : α) (c : Cursor) : (pure a : Reader α) c = (.ok a, c) := rfl

/-- Where the first step succeeds the second one goes on. -/
theorem bind_ok {x : Reader α} {f : α → Reader β} {c c' : Cursor} {a : α}
    (h : x c = (.ok a, c')) : (x >>= f) c = f a c' := by
  rw [bind_apply, h]

/-- Where the first step is refused the sequence is. -/
theorem bind_error {x : Reader α} {f : α → Reader β} {c c' : Cursor} {e : Refusal}
    (h : x c = (.error e, c')) : (x >>= f) c = (.error e, c') := by
  rw [bind_apply, h]

/-- A sequence of two steps succeeds where both of them do. -/
theorem bind_eq_ok {x : Reader α} {f : α → Reader β} {c c' : Cursor} {b : β}
    (h : (x >>= f) c = (.ok b, c')) : ∃ a d, x c = (.ok a, d) ∧ f a d = (.ok b, c') := by
  rw [bind_apply] at h
  split at h
  · next a d hx => exact ⟨a, d, hx, h⟩
  · next e d hx => cases h

theorem map_ok {x : Reader α} (f : α → β) {c c' : Cursor} {a : α} (h : x c = (.ok a, c')) :
    (f <$> x) c = (.ok (f a), c') := by
  have hbind : (f <$> x) c = (x >>= fun a => pure (f a)) c := by
    rw [bind_pure_comp]
  rw [hbind, bind_ok h, pure_apply]

theorem located_ok {r : Reader α} {c c' : Cursor} {a : α} (h : r c = (.ok a, c')) :
    located r c = (.ok a, c') := by
  rw [located, h]

theorem within_ok {r : Reader α} (step : Step) {c c' : Cursor} {a : α} (h : r c = (.ok a, c')) :
    within step r c = (.ok a, c') := by
  rw [within, h]

theorem attempt_ok {r : Reader α} {c c' : Cursor} {a : α} (h : r c = (.ok a, c')) :
    attempt r c = (.ok (some a), c') := by
  rw [attempt, h]

theorem closedBy_ok {body : Reader α} {close : Reader Unit} {c d c' : Cursor} {a : α}
    (hbody : body c = (.ok a, d)) (hclose : close d = (.ok (), c')) :
    closedBy body close c = (.ok a, c') := by
  simp only [closedBy, hbody, hclose]

/-- A result that is made of another is there just when the other is. -/
theorem map_eq_ok {x : Reader α} {f : α → β} {c c' : Cursor} {b : β}
    (h : (f <$> x) c = (.ok b, c')) : ∃ a, x c = (.ok a, c') ∧ f a = b := by
  rw [← bind_pure_comp] at h
  obtain ⟨a, d, hx, ha⟩ := bind_eq_ok h
  cases ha
  exact ⟨a, hx, rfl⟩

theorem located_eq_ok {r : Reader α} {c c' : Cursor} {a : α} (h : located r c = (.ok a, c')) :
    r c = (.ok a, c') := by
  rw [located] at h
  split at h
  · cases h
  · exact h

theorem within_eq_ok {r : Reader α} {step : Step} {c c' : Cursor} {a : α}
    (h : within step r c = (.ok a, c')) : r c = (.ok a, c') := by
  rw [within] at h
  split at h
  · cases h
  · exact h

/-- An attempt that gives a value has read it. -/
theorem attempt_eq_some {r : Reader α} {c c' : Cursor} {a : α}
    (h : attempt r c = (.ok (some a), c')) : r c = (.ok a, c') := by
  rw [attempt] at h
  split at h
  · cases h
  · next a' d hr =>
    cases h
    exact hr

/-- A body that was closed was read first. -/
theorem closedBy_eq_ok {body : Reader α} {close : Reader Unit} {c c' : Cursor} {a : α}
    (h : closedBy body close c = (.ok a, c')) :
    ∃ d, body c = (.ok a, d) ∧ close d = (.ok (), c') := by
  rcases hbody : body c with ⟨result, d⟩
  rcases hclose : close d with ⟨closed, e⟩
  simp only [closedBy, hbody, hclose] at h
  -- both readers are run, and both have to succeed
  cases result with
  | error e' => cases h
  | ok a' =>
    cases closed with
    | error e' => cases h
    | ok u =>
      cases h
      exact ⟨d, rfl, hclose⟩

/-! ## Single steps -/

theorem get_apply (c : Cursor) : (get : Reader Cursor) c = (.ok c, c) := rfl

theorem set_apply (c d : Cursor) : (set d : Reader PUnit) c = (.ok ⟨⟩, d) := rfl

theorem peek_cons (b : UInt8) (t : Bytes) (o : Nat) :
    peek ⟨b :: t, o⟩ = (.ok (some b), ⟨b :: t, o⟩) := rfl

theorem advance_cons (b : UInt8) (t : Bytes) (o : Nat) :
    advance ⟨b :: t, o⟩ = (.ok (), ⟨t, o + 1⟩) := rfl

theorem next_cons (b : UInt8) (t : Bytes) (o : Nat) :
    next ⟨b :: t, o⟩ = (.ok (some b), ⟨t, o + 1⟩) := rfl

theorem stepsLeft_apply (c : Cursor) : stepsLeft c = (.ok (2 * c.rest.length + 2), c) := rfl

/-- The blanks before the next token are passed over. -/
theorem peekToken_apply (c : Cursor) :
    peekToken c = (.ok (c.rest.dropWhile isBlank).head?,
      ⟨c.rest.dropWhile isBlank, c.offset + (c.rest.takeWhile isBlank).length⟩) := rfl

/-- A byte that is no blank is the next token. -/
theorem peekToken_cons {b : UInt8} (hb : isBlank b = false) (t : Bytes) (o : Nat) :
    peekToken ⟨b :: t, o⟩ = (.ok (some b), ⟨b :: t, o⟩) := by
  have hdrop : (b :: t).dropWhile isBlank = b :: t := List.dropWhile_cons_of_neg (by simp [hb])
  have htake : (b :: t).takeWhile isBlank = [] := List.takeWhile_cons_of_neg (by simp [hb])
  rw [peekToken_apply, hdrop, htake]
  rfl

/-- Nothing but blanks, such as stand between the parts of a text that is laid out in lines. -/
def Blanks (gap : Bytes) : Prop := ∀ b ∈ gap, isBlank b

theorem Blanks.nil : Blanks [] := nofun

/-- A gap is passed over as if the text started after it. -/
theorem peekToken_blanks {gap : Bytes} (hgap : Blanks gap) (t : Bytes) (o : Nat) :
    peekToken ⟨gap ++ t, o⟩ = peekToken ⟨t, o + gap.length⟩ := by
  rw [peekToken_apply, peekToken_apply]
  dsimp only
  rw [List.dropWhile_append_of_pos hgap, List.takeWhile_append_of_pos hgap, List.length_append,
    Nat.add_assoc]

/-- The token after a gap. -/
theorem peekToken_gap {gap : Bytes} (hgap : Blanks gap) {b : UInt8} (hb : isBlank b = false)
    (t : Bytes) (o : Nat) :
    peekToken ⟨gap ++ b :: t, o⟩ = (.ok (some b), ⟨b :: t, o + gap.length⟩) := by
  rw [peekToken_blanks hgap, peekToken_cons hb]

/-! ## Reading exactly a text -/

/-- The bytes that end the value before them: the blanks, a comma and the closing brackets. -/
def ends : Bytes := [0x20, 0x0A, 0x09, 0x0D, 0x2C, 0x5D, 0x7D]

/-- A blank ends a value. -/
theorem mem_ends_of_isBlank {b : UInt8} (h : isBlank b) : b ∈ ends := by
  simp only [isBlank, Bool.or_eq_true, decide_eq_true_eq] at h
  rcases h with ((rfl | rfl) | rfl) | rfl
  all_goals decide

/-- What follows is nothing, or a byte that ends the value before it. -/
def Ended (rest : Bytes) : Prop := ∀ b ∈ rest.head?, b ∈ ends

theorem Ended.nil : Ended [] := nofun

theorem Ended.cons {b : UInt8} (h : b ∈ ends) (t : Bytes) : Ended (b :: t) := by
  intro x hx
  rw [List.head?_cons, Option.mem_some_iff] at hx
  rwa [← hx]

/-- A comma ends a value. -/
theorem Ended.comma (t : Bytes) : Ended (0x2C :: t) := .cons (by decide) t

/-- A value ends before a gap, and before what ends it after the gap. -/
theorem Ended.gap {gap : Bytes} (hgap : Blanks gap) {t : Bytes} (ht : Ended t) :
    Ended (gap ++ t) := by
  cases gap with
  | nil => exact ht
  | cons b rest => exact .cons (mem_ends_of_isBlank (hgap b List.mem_cons_self)) _

/-- What holds before each byte that ends a value, and at the end, holds where the value ends. -/
@[elab_as_elim]
theorem Ended.cases {P : Bytes → Prop} {t : Bytes} (ht : Ended t) (hnil : P [])
    (hends : ∀ u, ∀ b ∈ ends, P (b :: u)) : P t := by
  cases t with
  | nil => exact hnil
  | cons b u => exact hends u b (ht b rfl)

/-- The reader takes exactly the text `t`, as `a`, wherever the value ends after it. -/
def Reads (r : Reader α) (t : Bytes) (a : α) : Prop :=
  ∀ rest o, Ended rest → r ⟨t ++ rest, o⟩ = (.ok a, ⟨rest, o + t.length⟩)

/-- A whole text is read if nothing but blanks is left of it. -/
theorem whole_eq_ok {r : Reader α} {t : Bytes} {a : α} :
    whole r t = .ok a ↔ ∃ rest, r (Cursor.start t) = (.ok a, rest) ∧
      ∃ last, endOfText rest = (.ok (), last) := by
  unfold whole run
  constructor
  · intro h
    -- the run gives a value only with the cursor that it has left
    have hrun : (do let a ← r; endOfText; return a : Reader α) (Cursor.start t)
        = (.ok a, ((do let a ← r; endOfText; return a : Reader α) (Cursor.start t)).2) :=
      Prod.ext h rfl
    obtain ⟨b, rest, hread, hrest⟩ := bind_eq_ok hrun
    obtain ⟨⟨⟩, last, hlast, hpure⟩ := bind_eq_ok hrest
    cases hpure
    exact ⟨rest, hread, _, hlast⟩
  · rintro ⟨rest, hread, last, hlast⟩
    rw [bind_ok hread, bind_ok hlast, pure_apply]

/-- A whole text that is read is read to its end. -/
theorem Reads.whole {r : Reader α} {t : Bytes} {a : α} (h : Reads r t a) :
    whole r t = .ok a := by
  have hread : r (Cursor.start t) = (.ok a, ⟨[], t.length⟩) := by
    have hnil := h [] 0 Ended.nil
    rwa [List.append_nil, Nat.zero_add] at hnil
  have hend : endOfText ⟨[], t.length⟩ = (.ok (), ⟨[], t.length⟩) := rfl
  exact whole_eq_ok.2 ⟨_, hread, _, hend⟩

theorem Reads.located {r : Reader α} {t : Bytes} {a : α} (h : Reads r t a) :
    Reads (located r) t a :=
  fun rest o hrest => located_ok (h rest o hrest)

/-- What a text begins with decides how it is read, where that is no blank. -/
theorem Reads.token {F : Option UInt8 → Reader α} {t u : Bytes} {b : UInt8} {a : α}
    (ht : t = b :: u) (hb : isBlank b = false) (h : Reads (F (some b)) t a) :
    Reads (peekToken >>= F) t a := by
  intro rest o hrest
  have hpeek : peekToken ⟨t ++ rest, o⟩ = (.ok (some b), ⟨t ++ rest, o⟩) := by
    rw [ht]
    exact peekToken_cons hb _ o
  rw [bind_ok hpeek, h rest o hrest]

/-- A gap before a text does not change what is read. -/
theorem Reads.gap {F : Option UInt8 → Reader α} {gap t : Bytes} {a : α} (hgap : Blanks gap)
    (h : Reads (peekToken >>= F) t a) : Reads (peekToken >>= F) (gap ++ t) a := by
  intro rest o hrest
  have hskip : (peekToken >>= F) ⟨gap ++ (t ++ rest), o⟩
      = (peekToken >>= F) ⟨t ++ rest, o + gap.length⟩ := by
    rw [bind_apply, bind_apply, peekToken_blanks hgap]
  rw [List.append_assoc, hskip, h rest _ hrest, List.length_append, Nat.add_assoc]

theorem Reads.attempt {r : Reader α} {t : Bytes} {a : α} (h : Reads r t a) :
    Reads (attempt r) t (some a) :=
  fun rest o hrest => attempt_ok (h rest o hrest)

/-- What is made of a value without reading on reads back with it. -/
theorem Reads.bind {x : Reader α} {f : α → Reader β} {t : Bytes} {a : α} {b : β}
    (hx : Reads x t a) (hf : ∀ c, f a c = (.ok b, c)) : Reads (x >>= f) t b := by
  intro rest o hrest
  rw [bind_ok (hx rest o hrest), hf]

end TenantAuth.Json.Reader

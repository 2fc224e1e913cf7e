import TenantAuth.Proofs.Json.Passing

/-!
# The outline of a record

`Outline` goes through the text of a record and notes where its members begin. Two readers that take
the same text, each in its own way, meet in the outline: one that knows where all members begin
determines it, and another one follows it for as long as it keeps to the same phases. A reader that
has lost them is `Astray`, and does not find the end of the record any more.
-/
namespace TenantAuth.Json.Reader

variable {α σ : Type} {f g : Phase} {k j : Nat} {c d : Cursor} {us : List Cursor}

/-! ## Outlines -/

/-- Where a byte outside the strings stands in a record. -/
inductive Level where
  /-- Before the name of a member, or the end of a record without members. -/
  | name
  /-- After the opening quote of the name, with the brackets that are open since. -/
  | member (k : Nat)
  | done
  deriving DecidableEq

/-- The level after a byte, other than the quote before a name. -/
def Level.step : Level → UInt8 → Option Level
  | .name, b => if isBlank b then some .name else if b = 0x7D then some .done else none
  | .member k, b =>
    match nest k b with
    | some k' => some (.member k')
    | none =>
      if b = 0x2C then some .name
      else if b = 0x3A then some (.member 0)
      else if b = 0x7D then some .done
      else none
  | .done, b => if isBlank b then some .done else none

/-- The level after a byte; bytes that are due or stand in a string do not change it. -/
def Phase.level (f : Phase) (l : Level) (b : UInt8) : Option Level :=
  if f = .out [] then l.step b else some l

/-- The rest of a record goes through to the end of the text, and the names of its members begin at
the cursors in the list. -/
inductive Outline : Phase → Level → Cursor → List Cursor → Prop
  | nil (o : Nat) : Outline (.out []) .done ⟨[], o⟩ []
  | name {t : Bytes} {o : Nat} {us : List Cursor} (hrest : Outline .str (.member 0) ⟨t, o + 1⟩ us) :
      Outline (.out []) .name ⟨0x22 :: t, o⟩ (⟨t, o + 1⟩ :: us)
  | byte {f f' : Phase} {l l' : Level} {b : UInt8} {t : Bytes} {o : Nat} {us : List Cursor}
      (hphase : f.step b = some f') (hlevel : f.level l b = some l')
      (hrest : Outline f' l' ⟨t, o + 1⟩ us) : Outline f l ⟨b :: t, o⟩ us

/-- A record with an outline goes through to its end. -/
theorem Outline.good {l : Level} (h : Outline f l c us) : Good f c.rest := by
  induction h with
  | nil o => exact rfl
  | name _ ih => exact good_quote.2 ih
  | byte hphase _ _ ih => exact (good_cons hphase).2 ih

/-- A byte other than the quote before a name moves the outline on. -/
theorem outline_byte {f' : Phase} {l l' : Level} {b : UInt8} {t : Bytes} {o : Nat}
    (hphase : f.step b = some f') (hlevel : f.level l b = some l') :
    Outline f l ⟨b :: t, o⟩ us ↔ Outline f' l' ⟨t, o + 1⟩ us := by
  refine ⟨fun h => ?_, .byte hphase hlevel⟩
  cases h with
  | name hrest => cases hlevel
  | byte hphase' hlevel' hrest =>
    cases hphase.symm.trans hphase'
    cases hlevel.symm.trans hlevel'
    exact hrest

/-- Before a name the outline has the place of the name. -/
theorem outline_name {t : Bytes} {o : Nat} :
    Outline (.out []) .name ⟨0x22 :: t, o⟩ us ↔
      ∃ us', us = ⟨t, o + 1⟩ :: us' ∧ Outline .str (.member 0) ⟨t, o + 1⟩ us' := by
  constructor
  · intro h
    cases h with
    | name hrest => exact ⟨_, rfl, hrest⟩
    | byte hphase hlevel hrest => cases hlevel
  · rintro ⟨us', rfl, hrest⟩
    exact .name hrest

/-- **Inside a member the outline follows the phases and the open brackets.** -/
theorem Goes.outline_iff (h : Goes f k c g j d) (i : Nat) :
    Outline f (.member (k + i)) c us ↔ Outline g (.member (j + i)) d us := by
  induction h with
  | refl f k c => exact Iff.rfl
  | @step f f₁ g k k₁ j b t o d hphase hnest _ ih =>
    -- a byte that the open brackets count changes the level by as much
    have hlevel : f.level (.member (k + i)) b = some (.member (k₁ + i)) := by
      unfold Phase.nest at hnest
      unfold Phase.level
      split at hnest
      · next hout => rw [if_pos hout, Level.step, nest_add hnest i]
      · next hout =>
        rw [if_neg hout]
        cases hnest
        rfl
    exact (outline_byte hphase hlevel).trans ih

/-- A blank leaves the level as it is. -/
theorem level_step_blank {l : Level} {b : UInt8} (hb : isBlank b = true) : l.step b = some l := by
  have each : ∀ b : UInt8, isBlank b = true → b ∉ [0x5B, 0x7B, 0x5D, 0x7D, 0x2C, 0x3A] :=
    Text.forall_byte (by decide +kernel)
  cases l with
  | name => exact if_pos hb
  | member k => rw [Level.step, nest_of_not_bracket (each b hb)]
  | done => exact if_pos hb

theorem phase_step_blank {b : UInt8} (hb : isBlank b = true) :
    Phase.step (.out []) b = some (.out []) := by
  have each : ∀ b : UInt8, isBlank b = true → Phase.step (.out []) b = some (.out []) :=
    Text.forall_byte (by decide +kernel)
  exact each b hb

/-- Blanks do not matter to an outline. -/
theorem outline_atToken {l : Level} (c : Cursor) :
    Outline (.out []) l c us ↔ Outline (.out []) l (atToken c) us := by
  obtain ⟨t, o⟩ := c
  induction t generalizing o with
  | nil => exact Iff.rfl
  | cons b t ih =>
    cases hb : isBlank b with
    | true =>
      -- one blank fewer leads to the same token
      have htoken : atToken ⟨b :: t, o⟩ = atToken ⟨t, o + 1⟩ := by
        rw [atToken, atToken, List.dropWhile_cons_of_pos hb, List.takeWhile_cons_of_pos hb,
          List.length_cons]
        congr 1
        show o + ((t.takeWhile isBlank).length + 1) = o + 1 + (t.takeWhile isBlank).length
        omega
      rw [htoken]
      exact (outline_byte (phase_step_blank hb) ((if_pos rfl).trans (level_step_blank hb))).trans
        (ih (o + 1))
    | false =>
      have hneg : ¬ isBlank b = true := by
        rw [hb]
        exact Bool.false_ne_true
      rw [atToken, List.dropWhile_cons_of_neg hneg, List.takeWhile_cons_of_neg hneg]
      exact Iff.rfl

/-! ## The parts of a record -/

/-- The level before a member, or before the end of the record. -/
def loopLevel (first : Bool) : Level := if first then .name else .member 0

/-- Where another member follows, the outline has the place of its name next. -/
theorem outline_hasMember {first : Bool} {t : Bytes} {o : Nat}
    (h : hasMember first c = (.ok true, ⟨0x22 :: t, o⟩)) :
    Outline (.out []) (loopLevel first) c us ↔
      ∃ us', us = ⟨t, o + 1⟩ :: us' ∧ Outline .str (.member 0) ⟨t, o + 1⟩ us' := by
  obtain ⟨hfalse, -⟩ | ⟨-, t₁, o₁, -, hplace⟩ := hasMember_eq_ok h
  · cases hfalse
  rw [outline_atToken]
  -- a comma brings the outline back to the place before a name
  rcases hplace with ⟨rfl, htoken⟩ | ⟨rfl, t', o', htoken, htoken'⟩
  · rw [htoken]
    exact outline_name
  · rw [htoken]
    have hcomma : Outline (.out []) (loopLevel false) ⟨0x2C :: t', o'⟩ us
        ↔ Outline (.out []) .name ⟨t', o' + 1⟩ us := outline_byte rfl rfl
    rw [hcomma, outline_atToken, htoken']
    exact outline_name

/-- A colon that is taken is the next token. -/
theorem colon_eq_ok (h : colon c = (.ok (), d)) :
    ∃ t o, atToken c = ⟨0x3A :: t, o⟩ ∧ d = ⟨t, o + 1⟩ := by
  obtain ⟨b, t, o, htoken, h⟩ := peekToken_eq_ok (refuses_failNext _) h
  rw [htoken]
  dsimp only at h
  by_cases hcolon : b = 0x3A
  · rw [if_pos hcolon] at h
    cases h
    exact ⟨t, o, by rw [hcolon], rfl⟩
  · rw [if_neg hcolon] at h
    cases h

/-- The colon after a name is passed at any depth. -/
theorem outline_colon (h : colon c = (.ok (), d)) :
    Outline (.out []) (.member k) c us ↔ Outline (.out []) (.member k) d us := by
  obtain ⟨t, o, htoken, rfl⟩ := colon_eq_ok h
  rw [outline_atToken, htoken]
  refine outline_byte rfl ?_
  cases k with
  | zero => rfl
  | succ k => rfl

/-- The brace that ends an object is the next token. -/
theorem endObject_eq_ok (h : endObject c = (.ok (), d)) :
    ∃ t o, atToken c = ⟨0x7D :: t, o⟩ ∧ d = ⟨t, o + 1⟩ := by
  obtain ⟨b, t, o, htoken, h⟩ := peekToken_eq_ok (refuses_failNext _) h
  rw [htoken]
  dsimp only at h
  by_cases hbrace : b = 0x7D
  · rw [if_pos hbrace] at h
    cases h
    exact ⟨t, o, by rw [hbrace], rfl⟩
  · rw [if_neg hbrace] at h
    -- any other byte is refused, by one fault or the other
    split at h
    · cases h
    · cases h

/-- At the end of a text there are only blanks. -/
theorem endOfText_eq_ok (h : endOfText c = (.ok (), d)) : (atToken c).rest = [] := by
  rw [endOfText, bind_peekToken] at h
  cases hrest : (atToken c).rest with
  | nil => rfl
  | cons b t =>
    rw [hrest] at h
    cases h

/-- After the closing brace of a record nothing but blanks follows. -/
theorem outline_end (hclose : endObject c = (.ok (), d)) {e : Cursor}
    (hend : endOfText d = (.ok (), e)) (first : Bool) :
    Outline (.out []) (loopLevel first) c [] := by
  obtain ⟨t, o, htoken, rfl⟩ := endObject_eq_ok hclose
  -- the outline after the brace ends with the text
  have hdone : Outline (.out []) .done ⟨t, o + 1⟩ [] := by
    rw [outline_atToken]
    have hrest := endOfText_eq_ok hend
    rcases htoken' : atToken ⟨t, o + 1⟩ with ⟨rest, o'⟩
    rw [htoken'] at hrest
    subst hrest
    exact .nil o'
  rw [outline_atToken, htoken]
  cases first with
  | true => exact .byte rfl rfl hdone
  | false => exact .byte rfl rfl hdone

/-! ## Runs over the members -/

/-- A run over the members of an object: where their names begin, and what `member` makes of them
one after the other. -/
inductive Visits (member : σ → String → Reader σ) :
    Bool → σ → Cursor → List Cursor → σ → Cursor → Prop
  | done {first : Bool} {s : σ} {c d : Cursor} (hlast : hasMember first c = (.ok false, d)) :
      Visits member first s c [] s d
  | next {first : Bool} {s s' s'' : σ} {c c₁ c₂ d : Cursor} {t : Bytes} {o : Nat} {name : String}
      {us : List Cursor} (hmore : hasMember first c = (.ok true, ⟨0x22 :: t, o⟩))
      (hname : stringText ⟨t, o + 1⟩ = (.ok name, c₁)) (hmember : member s name c₁ = (.ok s', c₂))
      (hrest : Visits member false s' c₂ us s'' d) :
      Visits member first s c (⟨t, o + 1⟩ :: us) s'' d

/-- Members that are read make up a run over them. -/
theorem exists_visits {member : σ → String → Reader σ} :
    ∀ {n : Nat} {first : Bool} {s s' : σ} {c d : Cursor},
      members member n first s c = (.ok s', d) → ∃ us, Visits member first s c us s' d
  | 0, first, s, s', c, d, h => by
    cases h
  | n + 1, first, s, s', c, d, h => by
    obtain ⟨more, e, hmore, h⟩ := bind_eq_ok h
    -- the members are over, or one more is visited before the rest
    obtain ⟨rfl, -⟩ | ⟨rfl, t, o, rfl, -⟩ := hasMember_eq_ok hmore
    · cases h
      exact ⟨[], .done hmore⟩
    · rw [if_pos rfl, bind_ok (advance_cons _ t o)] at h
      obtain ⟨name, c₁, hname, h⟩ := bind_eq_ok h
      obtain ⟨s₁, c₂, hmember, h⟩ := bind_eq_ok h
      obtain ⟨us, hvisits⟩ := exists_visits h
      exact ⟨_, .next hmore hname hmember hvisits⟩

/-- What the reader takes of a member, the outline passes over. -/
def Keeps (r : Reader α) : Prop :=
  ∀ ⦃a : α⦄ ⦃c d : Cursor⦄, r c = (.ok a, d) →
    ∀ ⦃us : List Cursor⦄, Outline (.out []) (.member 0) d us → Outline (.out []) (.member 0) c us

/-- **A reader that takes every member whole determines the outline of the record.** -/
theorem Visits.outline {member : σ → String → Reader σ} (hkeeps : ∀ s name, Keeps (member s name))
    {first : Bool} {s s' : σ} (h : Visits member first s c us s' d) {e e' : Cursor}
    (hclose : endObject d = (.ok (), e)) (hend : endOfText e = (.ok (), e')) :
    Outline (.out []) (loopLevel first) c us := by
  induction h with
  | @done first s c d hlast =>
    obtain ⟨-, rfl⟩ | ⟨htrue, -⟩ := hasMember_eq_ok hlast
    · rw [outline_atToken]
      exact outline_end hclose hend first
    · cases htrue
  | @next first s s' s'' c c₁ c₂ d t o name us hmore hname hmember hrest ih =>
    -- the rest of the record is outlined already, and the member is put before it
    have hvalue := hkeeps s name hmember (ih hclose)
    have hstring : Goes .str 0 ⟨t, o + 1⟩ (.out []) 0 c₁ := tracks_stringText _ |>.ok hname
    exact (outline_hasMember hmore).2 ⟨us, rfl, (hstring.outline_iff 0).2 hvalue⟩

theorem Keeps.bind_pure {β : Type} {x : Reader α} {F : α → β} (hx : Keeps x) :
    Keeps (do return F (← x)) := by
  intro b c d h us hus
  obtain ⟨a, e, ha, hb⟩ := bind_eq_ok h
  cases hb
  exact hx ha hus

/-- A value that is read whole leaves the outline to the other members. -/
theorem keeps_memberValue {name : String} {value : Reader α}
    (hvalue : ∀ {a : α} {c d : Cursor}, value c = (.ok a, d) → Goes (.out []) 0 c (.out []) 0 d) :
    Keeps (memberValue name value) := by
  intro a c d h us hus
  obtain ⟨_, e, hcolon, h⟩ := bind_eq_ok h
  exact (outline_colon hcolon).2 (((hvalue (within_eq_ok h)).outline_iff 0).2 hus)

theorem memberValue_eq_ok {β : Type} {name : String} {x : Reader α} {F : α → β} {b : β}
    (h : memberValue name (do return F (← x)) c = (.ok b, d)) :
    ∃ a, b = F a ∧ memberValue name x c = (.ok a, d) := by
  obtain ⟨_, e, hcolon, h⟩ := bind_eq_ok h
  obtain ⟨a, e', ha, hb⟩ := bind_eq_ok (within_eq_ok h)
  cases hb
  exact ⟨a, rfl, (bind_ok hcolon).trans (within_ok _ ha)⟩

/-- A field that is read once was empty before, and holds its value after. -/
theorem once_eq_ok {name : String} {slot result : Option α} {value : Reader α} {c d : Cursor}
    (h : once name slot value c = (.ok result, d)) :
    slot = none ∧ ∃ a, result = some a ∧ memberValue name value c = (.ok a, d) := by
  rw [once] at h
  cases slot with
  | some a => cases h
  | none =>
    rw [if_neg nofun] at h
    obtain ⟨a, ha, rfl⟩ := map_eq_ok h
    exact ⟨rfl, a, rfl, ha⟩

/-- A field is read whole, its colon included. -/
theorem keeps_once {name : String} {slot : Option α} {value : Reader α}
    (hvalue : ∀ {a : α} {c d : Cursor}, value c = (.ok a, d) → Goes (.out []) 0 c (.out []) 0 d) :
    Keeps (once name slot value) := by
  intro result c d h us hus
  obtain ⟨-, a, -, ha⟩ := once_eq_ok h
  exact keeps_memberValue hvalue ha hus

/-! ## Readers that are lost -/

/-- A reader takes the inside of a string for its outside, and the other way round. -/
inductive Crossed : Phase → Phase → Prop
  | out (due : List Due) : Crossed (.out due) .str
  | str (due : List Due) : Crossed .str (.out due)

/-- Letters, digits and signs are all that may be due. -/
theorem Due.not_allows (d : Due) : d.allows 0x22 = false ∧ d.allows 0x5C = false := by
  cases d with
  | letter x => exact ⟨Bool.and_false _, Bool.and_false _⟩
  | digit => exact ⟨rfl, rfl⟩
  | signOrDigit => exact ⟨rfl, rfl⟩

/-- Whatever may stand outside the strings, bytes that are due and others, is no backslash, and no
quote where something is due. -/
theorem step_out_ne {due : List Due} {b : UInt8} {g : Phase}
    (h : Phase.step (.out due) b = some g) :
    (b = 0x22 ∧ due = [] ∧ g = .str) ∨ (b ≠ 0x22 ∧ b ≠ 0x5C ∧ ∃ due', g = .out due') := by
  cases due with
  | nil =>
    by_cases hquote : b = 0x22
    · subst hquote
      cases h
      exact .inl ⟨rfl, rfl, rfl⟩
    · rw [Phase.step, if_neg hquote] at h
      obtain ⟨due', hdue, rfl⟩ := Option.map_eq_some_iff.1 h
      refine .inr ⟨hquote, ?_, due', rfl⟩
      rintro rfl
      cases hdue
  | cons d ds =>
    rw [Phase.step] at h
    split at h
    · next hallows =>
      cases h
      refine .inr ⟨?_, ?_, _, rfl⟩
      · rintro rfl
        exact Bool.false_ne_true (d.not_allows.1.symm.trans hallows)
      · rintro rfl
        exact Bool.false_ne_true (d.not_allows.2.symm.trans hallows)
    · cases h

/-- **Who has crossed over stays crossed over.** The quotes that open and close strings are the same
ones either way. -/
theorem Goes.crossed (h : Goes f k c g j d) {x : Phase} (hx : Crossed f x) (hgood : Good x c.rest) :
    ∃ y, Crossed g y ∧ Good y d.rest := by
  induction h generalizing x with
  | refl f k c => exact ⟨x, hx, hgood⟩
  | @step f f₁ g k k₁ j b t o d hphase _ _ ih =>
    cases hx with
    | out due =>
      -- a quote turns either reading into the other, and any other byte leaves both as they are
      rcases step_out_ne hphase with ⟨rfl, rfl, rfl⟩ | ⟨hquote, hslash, due', rfl⟩
      · exact ih (.str []) (good_unquote.1 hgood)
      · have hstep : Phase.step .str b = some .str := by
          rw [Phase.step, if_neg hquote, if_neg hslash]
        exact ih (.out due') ((good_cons hstep).1 hgood)
    | str due =>
      cases hout : Phase.step (.out due) b with
      | none => exact absurd hgood (not_good_cons hout)
      | some x' =>
        have hnext := (good_cons hout).1 hgood
        rcases step_out_ne hout with ⟨rfl, rfl, rfl⟩ | ⟨hquote, hslash, due', rfl⟩
        · cases hphase
          exact ih (.out []) hnext
        · rw [Phase.step, if_neg hquote, if_neg hslash] at hphase
          cases hphase
          exact ih (.str due') hnext

theorem Goes.good_str (h : Goes (.out []) k c (.out []) j d) (hgood : Good .str c.rest) :
    Good .str d.rest := by
  obtain ⟨y, hy, hgood'⟩ := h.crossed (.out []) hgood
  cases hy
  exact hgood'

/-- What is read as a string outside the strings is read as it is written. -/
theorem stringBytes_of_good : ∀ {n : Nat} {read b t : Bytes} {o : Nat} {due : List Due},
    stringBytes n read ⟨t, o⟩ = (.ok b, d) → Good (.out due) t →
      ∃ p t', t = p ++ t' ∧ b = read.reverse ++ p
  | 0, read, b, t, o, due, h, _ => by
    cases h
  | n + 1, read, b, [], o, due, h, _ => by
    cases h
  | n + 1, read, b, x :: t, o, due, h, hgood => by
    cases hstep : Phase.step (.out due) x with
    | none => exact absurd hgood (not_good_cons hstep)
    | some f =>
      -- the reader of strings, unfolded once at a byte that is there
      change (do
        advance
        if x = 0x22 then return read.reverse
        else if x = 0x5C then
          let e ← escape
          stringBytes n (e.reverse ++ read)
        else if x < 0x20 then failHere .controlCharacter
        else stringBytes n (x :: read) : Reader Bytes) ⟨x :: t, o⟩ = _ at h
      rw [bind_ok (advance_cons x t o)] at h
      rcases step_out_ne hstep with ⟨rfl, -, -⟩ | ⟨hquote, hslash, due', rfl⟩
      · cases h
        exact ⟨[], 0x22 :: t, rfl, (List.append_nil _).symm⟩
      · rw [if_neg hquote, if_neg hslash] at h
        split at h
        · cases h
        · obtain ⟨p, t', rfl, rfl⟩ := stringBytes_of_good h ((good_cons hstep).1 hgood)
          refine ⟨x :: p, t', rfl, ?_⟩
          rw [List.reverse_cons, List.append_assoc]
          rfl

/-- The name of a member, taken as a text of its own, goes through as what it stands in does. -/
theorem stringText_of_good {name : String} (h : stringText c = (.ok name, d))
    (hgood : Good (.out []) c.rest) : ∃ t, Good (.out []) (Text.bytes name ++ t) := by
  obtain ⟨t, o⟩ := c
  rw [stringText, bind_ok (stepsLeft_apply _)] at h
  obtain ⟨b, e, hb, htext⟩ := bind_eq_ok h
  obtain ⟨p, t', rfl, hp⟩ := stringBytes_of_good hb hgood
  rw [List.reverse_nil, List.nil_append] at hp
  subst hp
  cases hname : Text.ofBytes? b with
  | none =>
    rw [hname] at htext
    cases htext
  | some s =>
    rw [hname] at htext
    cases htext
    -- the bytes of the name are those that stand in the text
    rw [← Text.eq_bytes_of_ofBytes? hname]
    exact ⟨t', hgood⟩

/-- The reader stands inside a string, or inside brackets of the member that it takes to be over. -/
def Astray (c : Cursor) : Prop :=
  Good .str c.rest ∨ ∃ k us, Outline (.out []) (.member (k + 1)) c us

/-- A reader that is lost does not find the end of the record. -/
theorem Astray.not_end (h : Astray c) (hclose : endObject c = (.ok (), d)) {e : Cursor} :
    endOfText d ≠ (.ok (), e) := by
  intro hend
  obtain ⟨t, o, htoken, rfl⟩ := endObject_eq_ok hclose
  have hrest := endOfText_eq_ok hend
  rcases h with hgood | ⟨k, us, houtline⟩
  -- inside a string the text cannot end
  · have hbrace : Good .str (atToken c).rest := (goes_atToken (k := 0) c).good_str hgood
    rw [htoken] at hbrace
    have hinside : Good .str t := (good_cons rfl).1 hbrace
    have hblanks := (goes_atToken (k := 0) ⟨t, o + 1⟩).good_str hinside
    rw [hrest] at hblanks
    cases hblanks
  -- the brace that is taken for the last one closes an inner bracket
  · rw [outline_atToken, htoken] at houtline
    have hclosed : Outline (.out []) (.member k) ⟨t, o + 1⟩ us :=
      (outline_byte (b := 0x7D) rfl rfl).1 houtline
    rw [outline_atToken] at hclosed
    rcases htoken' : atToken ⟨t, o + 1⟩ with ⟨rest, o'⟩
    rw [htoken'] at hclosed hrest
    subst hrest
    cases hclosed

/-- What a reader may do to a member whose outline it follows: it passes over the member, or is lost
inside it. -/
def Follows (r : Reader α) : Prop :=
  ∀ ⦃a : α⦄ ⦃c d : Cursor⦄, r c = (.ok a, d) →
    ∀ ⦃k : Nat⦄ ⦃us : List Cursor⦄, Outline (.out []) (.member k) c us →
      Outline (.out []) (.member k) d us ∨ Astray d

theorem Follows.bind_pure {β : Type} {x : Reader α} {F : α → β} (hx : Follows x) :
    Follows (do return F (← x)) := by
  intro b c d h k us hus
  obtain ⟨a, e, ha, hb⟩ := bind_eq_ok h
  cases hb
  exact hx ha hus

/-- Where a value may be left, also one that could not be read. -/
def Leaves (r : Reader α) : Prop :=
  ∀ ⦃a : α⦄ ⦃c d : Cursor⦄, r c = (.ok a, d) → Good (.out []) c.rest →
    ∃ h j, h.Resting ∧ Goes (.out []) 0 c h j d

/-- A value that is attempted may be left where it failed. -/
theorem leaves_attempt {r : Reader α} (hr : Tracks 0 r (.out []) (.out [])) :
    Leaves (attempt r) := by
  intro a c d h hgood
  rw [attempt] at h
  rcases hresult : r c with ⟨result, e⟩
  rw [hresult] at h
  -- what fails is left where it failed, which is a place to rest in a good text
  cases result with
  | ok a' =>
    cases h
    exact ⟨.out [], 0, resting_out, hr c |>.ok hresult⟩
  | error refusal =>
    cases h
    obtain ⟨f', j, hrest, -, hgo⟩ := (hr c).error hresult hgood
    exact ⟨f', j, hrest, hgo⟩

/-- A value that is skipped is left at its end. -/
theorem leaves_skip : Leaves skip := fun _ _ _ h _ => ⟨.out [], 0, resting_out, goes_skip h⟩

/-- Nothing is read. -/
def Stays (r : Reader α) : Prop := ∀ ⦃a : α⦄ ⦃c d : Cursor⦄, r c = (.ok a, d) → d = c

theorem stays_pure (a : α) : Stays (pure a : Reader α) := by
  intro a' c d h
  cases h
  rfl

/-- What is read after a value takes nothing of it. -/
theorem Leaves.bind {β : Type} {x : Reader α} {F : α → Reader β} (hx : Leaves x)
    (hF : ∀ a, Stays (F a)) : Leaves (x >>= F) := by
  intro b c d h hgood
  obtain ⟨a, e, ha, hb⟩ := bind_eq_ok h
  cases hF a hb
  exact hx ha hgood

/-- A reader that leaves values as it may follows the outline. -/
theorem follows_memberValue {name : String} {value : Reader α} (hvalue : Leaves value) :
    Follows (memberValue name value) := by
  intro a c d h k us hus
  obtain ⟨_, e, hcolon, h⟩ := bind_eq_ok h
  have hstart := (outline_colon hcolon).1 hus
  -- the brackets that were open before the member stay open, and `j` more are
  obtain ⟨f', j, hrest, hgo⟩ := hvalue (within_eq_ok h) hstart.good
  rw [← Nat.zero_add k] at hstart
  have hleft := (hgo.outline_iff k).1 hstart
  rcases hrest with rfl | rfl
  · cases j with
    | zero =>
      rw [Nat.zero_add] at hleft
      exact .inl hleft
    | succ j =>
      rw [Nat.add_right_comm] at hleft
      exact .inr (.inr ⟨_, us, hleft⟩)
  · exact .inr (.inl hleft.good)

/-! ## Whole records -/

/-- The fields of a record stand in a list or in an object. -/
theorem record_eq_ok {expected : String} {fromArray fromObject : Reader α} {a : α}
    (h : record expected fromArray fromObject c = (.ok a, d)) :
    (∃ t o e, atToken c = ⟨0x5B :: t, o⟩ ∧ fromArray ⟨t, o + 1⟩ = (.ok a, e) ∧
      endList e = (.ok (), d)) ∨
    ∃ t o e, atToken c = ⟨0x7B :: t, o⟩ ∧ fromObject ⟨t, o + 1⟩ = (.ok a, e) ∧
      endObject e = (.ok (), d) := by
  obtain ⟨b, t, o, htoken, hinner⟩ := peekToken_eq_ok (refuses_failNext _) (located_eq_ok h)
  rw [htoken]
  dsimp only at hinner
  -- any other byte is of the wrong type, and that is never accepted
  by_cases hlist : b = 0x5B
  · rw [if_pos hlist, bind_ok (advance_cons b t o)] at hinner
    obtain ⟨e, hbody, hclose⟩ := closedBy_eq_ok hinner
    exact .inl ⟨t, o, e, by rw [hlist], hbody, hclose⟩
  rw [if_neg hlist] at hinner
  by_cases hobject : b = 0x7B
  · rw [if_pos hobject, bind_ok (advance_cons b t o)] at hinner
    obtain ⟨e, hbody, hclose⟩ := closedBy_eq_ok hinner
    exact .inr ⟨t, o, e, by rw [hobject], hbody, hclose⟩
  · rw [if_neg hobject] at hinner
    exact absurd hinner wrongType_ne_ok

end TenantAuth.Json.Reader

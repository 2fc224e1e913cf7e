import TenantAuth.Proofs.Json.Scalars

/-!
# Reading back lists and records

A list reads back item by item (`reads_list`), a record member by member: `Folds` says what a
reader of members makes of written members one after the other, and `reads_record` that it makes
the same of the text of the object.
-/
namespace TenantAuth.Json

theorem itemTexts_eq_map (items : List Json) : itemTexts items = items.map text := by
  induction items with
  | nil => rfl
  | cons v rest ih => rw [itemTexts, ih, List.map_cons]

theorem memberTexts_eq_map (members : List (String × Json)) :
    memberTexts members = members.map fun m => (m.1, m.2.text) := by
  induction members with
  | nil => rfl
  | cons m rest ih => rw [memberTexts, ih, List.map_cons]

namespace Reader

variable {α β σ : Type} {gap last : Bytes}

/-! ## Layouts

Between the brackets of a list or an object stands a gap before each part, and one before the
closing bracket. A compact text has empty gaps, and a text over several lines has line breaks and
blanks. -/

/-- The texts after the first of several, each after a comma and a gap. -/
def commaTail (gap : Bytes) (ts : List Bytes) : Bytes := ts.flatMap fun t => 0x2C :: (gap ++ t)

@[simp] theorem commaTail_nil : commaTail gap [] = [] := rfl

/-- One more text comes after a comma and a gap. -/
theorem commaTail_cons (gap t : Bytes) (ts : List Bytes) :
    commaTail gap (t :: ts) = 0x2C :: (gap ++ (t ++ commaTail gap ts)) := by
  rw [commaTail, List.flatMap_cons, List.cons_append, List.append_assoc]
  rfl

/-- Texts with commas between them, each after a gap. -/
def spaced (gap : Bytes) : List Bytes → Bytes
  | [] => []
  | t :: ts => gap ++ (t ++ commaTail gap ts)

/-- The texts between their brackets. -/
def laidOut (opening closing : UInt8) (gap last : Bytes) (ts : List Bytes) : Bytes :=
  opening :: (spaced gap ts ++ (last ++ [closing]))

/-- What follows a list or an object follows its closing bracket. -/
theorem laidOut_append (opening closing : UInt8) (gap last : Bytes) (ts : List Bytes) (t : Bytes) :
    laidOut opening closing gap last ts ++ t
      = opening :: (spaced gap ts ++ (last ++ closing :: t)) := by
  rw [laidOut, List.cons_append, List.append_assoc, List.append_assoc, List.singleton_append]

theorem length_laidOut (opening closing : UInt8) (gap last : Bytes) (ts : List Bytes) :
    (laidOut opening closing gap last ts).length
      = 1 + ((spaced gap ts).length + (last.length + 1)) := by
  rw [laidOut, List.length_cons, List.length_append, List.length_append, List.length_singleton,
    Nat.add_comm 1]

/-- Without gaps there is nothing but the commas between texts. -/
theorem commaSeparated_eq_spaced (ts : List Bytes) : commaSeparated ts = spaced [] ts := by
  cases ts with
  | nil => rfl
  | cons t rest =>
    -- both put a comma before every text but the first
    induction rest generalizing t with
    | nil =>
      rw [commaSeparated, spaced, commaTail_nil, List.append_nil, List.nil_append]
    | cons u rest ih =>
      rw [commaSeparated, ih u, spaced, spaced, commaTail_cons, List.nil_append,
        List.nil_append]

/-- The compact text of a list has no gaps. -/
theorem arrayText_eq_laidOut (ts : List Bytes) : arrayText ts = laidOut 0x5B 0x5D [] [] ts := by
  rw [arrayText, commaSeparated_eq_spaced]
  rfl

/-- What follows one of several texts ends its value: a comma, or else the closing bracket, with a
gap before it or not. -/
theorem Ended.commaTail (hlast : Blanks last) (ts : List Bytes) {b : UInt8} (hb : b ∈ ends)
    (t : Bytes) : Ended (commaTail gap ts ++ (last ++ b :: t)) := by
  cases ts with
  | nil => exact .gap hlast (.cons hb t)
  | cons u rest =>
    rw [commaTail_cons, List.cons_append]
    exact .comma _

/-! ## Lists -/

/-- The text starts with a byte that neither is a blank nor closes a list. -/
def Starts (t : Bytes) : Prop := ∃ b u, t = b :: u ∧ isBlank b = false ∧ b ≠ 0x5D

theorem starts_stringText (s : String) : Starts (Json.stringText s) :=
  ⟨0x22, (Text.bytes s).flatMap escapeByte ++ [0x22], rfl, rfl, by decide⟩

/-- The first item is found after its gap. -/
theorem hasItem_first (hgap : Blanks gap) {t : Bytes} (ht : Starts t) (rest : Bytes) (o : Nat) :
    hasItem true ⟨gap ++ (t ++ rest), o⟩ = (.ok true, ⟨t ++ rest, o + gap.length⟩) := by
  obtain ⟨b, u, rfl, hblank, hclose⟩ := ht
  rw [hasItem, List.cons_append, bind_ok (peekToken_gap hgap hblank _ o)]
  dsimp only
  rw [if_neg hclose]
  rfl

/-- Another item is found after its comma and its gap. -/
theorem hasItem_comma (hgap : Blanks gap) {t : Bytes} (ht : Starts t) (rest : Bytes) (o : Nat) :
    hasItem false ⟨0x2C :: (gap ++ (t ++ rest)), o⟩
      = (.ok true, ⟨t ++ rest, o + 1 + gap.length⟩) := by
  obtain ⟨b, u, rfl, hblank, hclose⟩ := ht
  rw [hasItem, bind_ok (peekToken_cons rfl _ o)]
  dsimp only
  rw [if_neg (by decide), if_neg (by decide), if_pos rfl, bind_ok (advance_cons _ _ o),
    List.cons_append, bind_ok (peekToken_gap hgap hblank _ (o + 1))]
  dsimp only
  rw [if_neg hclose]
  rfl

/-- No other item is found before the bracket. -/
theorem hasItem_bracket (hlast : Blanks last) (first : Bool) (t : Bytes) (o : Nat) :
    hasItem first ⟨last ++ 0x5D :: t, o⟩ = (.ok false, ⟨0x5D :: t, o + last.length⟩) := by
  rw [hasItem, bind_ok (peekToken_gap hlast rfl _ o)]
  rfl

variable {item : Reader α} {text : β → Bytes} {a : β → α}

/-- One written item is read, up to what follows it. -/
theorem items_step {first : Bool} {read : List α} (hfirst : read.isEmpty = first) {c : Cursor}
    {t rest : Bytes} {o : Nat} {x : α} (hhas : hasItem first c = (.ok true, ⟨t ++ rest, o⟩))
    (hitem : Reads item t x) (hrest : Ended rest) (n : Nat) :
    items item (n + 1) read c = items item n (x :: read) ⟨rest, o + t.length⟩ := by
  rw [items, hfirst, bind_ok hhas, if_pos rfl,
    bind_ok (within_ok (.item read.length) (hitem rest o hrest))]

/-- The items after the first are read up to the bracket. -/
theorem items_more (hgap : Blanks gap) (hlast : Blanks last) (xs : List β)
    (hitem : ∀ x ∈ xs, Reads item (text x) (a x)) (hstarts : ∀ x ∈ xs, Starts (text x)) :
    ∀ (n : Nat) (read : List α) (t : Bytes) (o : Nat), xs.length < n → read ≠ [] →
      items item n read ⟨commaTail gap (xs.map text) ++ (last ++ 0x5D :: t), o⟩
        = (.ok (read.reverse ++ xs.map a),
          ⟨0x5D :: t, o + (commaTail gap (xs.map text)).length + last.length⟩) := by
  induction xs with
  | nil =>
    intro n read t o hn _
    obtain ⟨k, rfl⟩ := Nat.exists_eq_succ_of_ne_zero (Nat.ne_of_gt hn)
    rw [List.map_nil, commaTail_nil, List.nil_append, items, bind_ok (hasItem_bracket hlast _ t o),
      List.map_nil, List.append_nil]
    rfl
  | cons x rest ih =>
    intro n read t o hn hread
    obtain ⟨k, rfl⟩ := Nat.exists_eq_succ_of_ne_zero (Nat.ne_zero_of_lt hn)
    have hk : rest.length < k := Nat.lt_of_succ_lt_succ hn
    have hfirst : read.isEmpty = false := by
      rw [List.isEmpty_eq_false_iff]
      exact hread
    -- what follows the item is a comma or the bracket, and either ends it
    have htail : Ended (commaTail gap (rest.map text) ++ (last ++ 0x5D :: t)) :=
      .commaTail hlast _ (by decide) t
    have hhas := hasItem_comma hgap (hstarts x List.mem_cons_self)
      (commaTail gap (rest.map text) ++ (last ++ 0x5D :: t)) o
    have hrest := ih (fun y hy => hitem y (List.mem_cons_of_mem x hy))
      (fun y hy => hstarts y (List.mem_cons_of_mem x hy)) k (a x :: read) t
      (o + 1 + gap.length + (text x).length) hk (List.cons_ne_nil (a x) read)
    rw [List.map_cons, commaTail_cons, List.cons_append, List.append_assoc, List.append_assoc,
      items_step hfirst hhas (hitem x List.mem_cons_self) htail k, hrest, List.reverse_cons,
      List.append_assoc, List.singleton_append, List.map_cons, List.length_cons,
      List.length_append, List.length_append]
    simp only [Nat.add_assoc, Nat.add_comm 1]

/-- The items of a list are read up to the bracket. -/
theorem items_written (hgap : Blanks gap) (hlast : Blanks last) (xs : List β)
    (hitem : ∀ x ∈ xs, Reads item (text x) (a x)) (hstarts : ∀ x ∈ xs, Starts (text x)) {n : Nat}
    (hn : xs.length < n) (t : Bytes) (o : Nat) :
    items item n [] ⟨spaced gap (xs.map text) ++ (last ++ 0x5D :: t), o⟩
      = (.ok (xs.map a), ⟨0x5D :: t, o + (spaced gap (xs.map text)).length + last.length⟩) := by
  obtain ⟨k, rfl⟩ := Nat.exists_eq_succ_of_ne_zero (Nat.ne_zero_of_lt hn)
  cases xs with
  | nil =>
    rw [List.map_nil, spaced, List.nil_append, items, bind_ok (hasItem_bracket hlast _ t o)]
    rfl
  | cons x rest =>
    have hk : rest.length < k := Nat.lt_of_succ_lt_succ hn
    -- the first item is not led in by a comma, the others are read as above
    have htail : Ended (commaTail gap (rest.map text) ++ (last ++ 0x5D :: t)) :=
      .commaTail hlast _ (by decide) t
    have hrest := items_more hgap hlast rest (fun y hy => hitem y (List.mem_cons_of_mem x hy))
      (fun y hy => hstarts y (List.mem_cons_of_mem x hy)) k [a x] t
      (o + gap.length + (text x).length) hk (List.cons_ne_nil (a x) [])
    have hhas := hasItem_first hgap (hstarts x List.mem_cons_self)
      (commaTail gap (rest.map text) ++ (last ++ 0x5D :: t)) o
    rw [List.map_cons, spaced, List.append_assoc, List.append_assoc,
      items_step List.isEmpty_nil hhas (hitem x List.mem_cons_self) htail k, hrest,
      List.length_append, List.length_append]
    simp only [Nat.add_assoc]
    rfl

/-- There are no more texts than bytes in the texts and the commas between them. -/
theorem length_le_spaced (gap : Bytes) (xs : List β) (text : β → Bytes)
    (hstarts : ∀ x ∈ xs, Starts (text x)) :
    xs.length ≤ (spaced gap (xs.map text)).length := by
  -- each text after the first has its comma, and the first one is not empty
  have hmore : ∀ ys : List β, ys.length ≤ (commaTail gap (ys.map text)).length := by
    intro ys
    induction ys with
    | nil => exact Nat.le_refl 0
    | cons y rest ih =>
      rw [List.map_cons, commaTail_cons, List.length_cons, List.length_cons, List.length_append,
        List.length_append]
      omega
  cases xs with
  | nil => exact Nat.zero_le _
  | cons x rest =>
    obtain ⟨b, u, hu, -, -⟩ := hstarts x List.mem_cons_self
    have := hmore rest
    rw [List.map_cons, spaced, List.length_append, List.length_append, hu, List.length_cons,
      List.length_cons]
    omega

theorem endList_bracket (t : Bytes) (o : Nat) :
    endList ⟨0x5D :: t, o⟩ = (.ok (), ⟨t, o + 1⟩) := by
  rw [endList, bind_ok (peekToken_cons rfl _ o)]
  rfl

/-- What stands between two brackets reads back with them, if its reader takes all that is before
the closing one. -/
theorem reads_laidOut {body : Reader α} {close : Reader Unit} {opening closing : UInt8}
    {ts : List Bytes} {x : α}
    (hbody : ∀ t o, body ⟨spaced gap ts ++ (last ++ closing :: t), o⟩
      = (.ok x, ⟨closing :: t, o + (spaced gap ts).length + last.length⟩))
    (hclose : ∀ t o, close ⟨closing :: t, o⟩ = (.ok (), ⟨t, o + 1⟩)) :
    Reads (do advance; closedBy body close) (laidOut opening closing gap last ts) x := by
  intro t o _
  rw [laidOut_append, bind_ok (advance_cons _ _ o), closedBy_ok (hbody t (o + 1)) (hclose t _),
    length_laidOut]
  simp only [Nat.add_assoc]

/-- A list reads back from its bracket on, in whatever layout. -/
theorem reads_bracketed (hgap : Blanks gap) (hlast : Blanks last) (xs : List β)
    (hitem : ∀ x ∈ xs, Reads item (text x) (a x)) (hstarts : ∀ x ∈ xs, Starts (text x)) :
    Reads (do advance; closedBy (do items item (← stepsLeft) []) endList)
      (laidOut 0x5B 0x5D gap last (xs.map text)) (xs.map a) := by
  refine reads_laidOut (fun t o => ?_) endList_bracket
  -- the steps are counted on the bytes that are left, and no item is without one
  have hfuel : xs.length
      < 2 * (spaced gap (xs.map text) ++ (last ++ 0x5D :: t)).length + 2 := by
    have := length_le_spaced gap xs text hstarts
    rw [List.length_append]
    omega
  rw [bind_ok (stepsLeft_apply _), items_written hgap hlast xs hitem hstarts hfuel]

/-- **The text of a list reads back.** -/
theorem reads_list {text : α → Bytes} (xs : List α) (hitem : ∀ x ∈ xs, Reads item (text x) x)
    (hstarts : ∀ x ∈ xs, Starts (text x)) :
    Reads (list item) (arrayText (xs.map text)) xs := by
  refine Reads.located (Reads.token rfl rfl ?_)
  dsimp only
  rw [if_pos rfl, arrayText_eq_laidOut]
  have hread := reads_bracketed .nil .nil xs hitem hstarts
  rwa [List.map_id'] at hread

/-! ## Members -/

/-- A member of an object as it is written. -/
def memberText (m : String × Bytes) : Bytes := Json.stringText m.1 ++ 0x3A :: m.2

/-- What a reader of members makes of written members, each of them with its colon and value. -/
inductive Folds (member : σ → String → Reader σ) : σ → List (String × Bytes) → σ → Prop where
  | nil (s : σ) : Folds member s [] s
  | cons {s s' s'' : σ} {name : String} {t : Bytes} {ms : List (String × Bytes)}
      (hmember : Reads (member s name) (0x3A :: t) s') (hrest : Folds member s' ms s'') :
      Folds member s ((name, t) :: ms) s''

/-- Members may be folded in two parts. -/
theorem Folds.append {member : σ → String → Reader σ} {s s' s'' : σ}
    {ms ms' : List (String × Bytes)} (h : Folds member s ms s') (h' : Folds member s' ms' s'') :
    Folds member s (ms ++ ms') s'' := by
  induction h with
  | nil s => exact h'
  | cons hmember hrest ih => exact .cons hmember (ih h')

theorem memberTexts_append (ms ms' : List (String × Json)) :
    memberTexts (ms ++ ms') = memberTexts ms ++ memberTexts ms' := by
  rw [memberTexts_eq_map, memberTexts_eq_map, memberTexts_eq_map, List.map_append]

/-- The compact text of an object has no gaps. -/
theorem objectText_eq_laidOut (ms : List (String × Bytes)) :
    objectText ms = laidOut 0x7B 0x7D [] [] (ms.map memberText) := by
  rw [objectText, commaSeparated_eq_spaced]
  rfl

/-- No other member is found before the brace. -/
theorem hasMember_brace (hlast : Blanks last) (first : Bool) (t : Bytes) (o : Nat) :
    hasMember first ⟨last ++ 0x7D :: t, o⟩ = (.ok false, ⟨0x7D :: t, o + last.length⟩) := by
  rw [hasMember, bind_ok (peekToken_gap hlast rfl _ o)]
  rfl

/-- The first member is found after its gap. -/
theorem hasMember_quote (hgap : Blanks gap) (t : Bytes) (o : Nat) :
    hasMember true ⟨gap ++ 0x22 :: t, o⟩ = (.ok true, ⟨0x22 :: t, o + gap.length⟩) := by
  rw [hasMember, bind_ok (peekToken_gap hgap rfl _ o)]
  rfl

/-- Another member is found after its comma and its gap. -/
theorem hasMember_comma (hgap : Blanks gap) (t : Bytes) (o : Nat) :
    hasMember false ⟨0x2C :: (gap ++ 0x22 :: t), o⟩
      = (.ok true, ⟨0x22 :: t, o + 1 + gap.length⟩) := by
  rw [hasMember, bind_ok (peekToken_cons rfl _ o)]
  dsimp only
  rw [if_neg (by decide), if_neg (by decide), if_pos rfl, bind_ok (advance_cons _ _ o),
    bind_ok (peekToken_gap hgap rfl _ (o + 1))]
  rfl

variable {member : σ → String → Reader σ}

/-- A member and what follows it, from the opening quote of its name on. -/
theorem memberText_append (name : String) (t rest : Bytes) :
    memberText (name, t) ++ rest
      = 0x22 :: ((Text.bytes name).flatMap escapeByte ++ 0x22 :: (0x3A :: t ++ rest)) := by
  rw [memberText, List.append_assoc, stringText_append]

/-- One written member is read, up to what follows its value. -/
theorem members_step {s s' : σ} {name : String} {t rest : Bytes} {first : Bool} {c : Cursor}
    {o : Nat} (hhas : hasMember first c = (.ok true, ⟨memberText (name, t) ++ rest, o⟩))
    (hmember : Reads (member s name) (0x3A :: t) s') (hrest : Ended rest) (n : Nat) :
    members member (n + 1) first s c
      = members member n false s' ⟨rest, o + (memberText (name, t)).length⟩ := by
  rw [members, bind_ok hhas, if_pos rfl, memberText_append, bind_ok (advance_cons _ _ o),
    bind_ok (stringText_written name _ (o + 1)), bind_ok (hmember rest _ hrest), memberText,
    List.length_append, length_stringText]
  simp only [Nat.add_assoc, Nat.add_comm 1]

/-- The members after the first are read up to the brace. -/
theorem members_more (hgap : Blanks gap) (hlast : Blanks last) {s s' : σ}
    {ms : List (String × Bytes)} (h : Folds member s ms s') :
    ∀ (n : Nat) (t : Bytes) (o : Nat), ms.length < n →
      members member n false s ⟨commaTail gap (ms.map memberText) ++ (last ++ 0x7D :: t), o⟩
        = (.ok s', ⟨0x7D :: t, o + (commaTail gap (ms.map memberText)).length + last.length⟩) := by
  induction h with
  | nil s =>
    intro n t o hn
    obtain ⟨k, rfl⟩ := Nat.exists_eq_succ_of_ne_zero (Nat.ne_zero_of_lt hn)
    rw [List.map_nil, commaTail_nil, List.nil_append, members,
      bind_ok (hasMember_brace hlast _ t o)]
    rfl
  | @cons s s' s'' name u ms hmember hrest ih =>
    intro n t o hn
    obtain ⟨k, rfl⟩ := Nat.exists_eq_succ_of_ne_zero (Nat.ne_zero_of_lt hn)
    have hk : ms.length < k := Nat.lt_of_succ_lt_succ hn
    have htail : Ended (commaTail gap (ms.map memberText) ++ (last ++ 0x7D :: t)) :=
      .commaTail hlast _ (by decide) t
    -- the quote that the reader looks for is that of the written name
    have hhas : hasMember false ⟨0x2C :: (gap ++ (memberText (name, u)
        ++ (commaTail gap (ms.map memberText) ++ (last ++ 0x7D :: t)))), o⟩
        = (.ok true, ⟨memberText (name, u)
          ++ (commaTail gap (ms.map memberText) ++ (last ++ 0x7D :: t)), o + 1 + gap.length⟩) := by
      rw [memberText_append]
      exact hasMember_comma hgap _ o
    rw [List.map_cons, commaTail_cons, List.cons_append, List.append_assoc, List.append_assoc,
      members_step hhas hmember htail k, ih k t _ hk, List.length_cons, List.length_append,
      List.length_append]
    simp only [Nat.add_assoc, Nat.add_comm 1]

/-- The members of a written object are read up to the brace. -/
theorem members_written (hgap : Blanks gap) (hlast : Blanks last) {s s' : σ}
    {ms : List (String × Bytes)} (h : Folds member s ms s') {n : Nat} (hn : ms.length < n)
    (t : Bytes) (o : Nat) :
    members member n true s ⟨spaced gap (ms.map memberText) ++ (last ++ 0x7D :: t), o⟩
      = (.ok s', ⟨0x7D :: t, o + (spaced gap (ms.map memberText)).length + last.length⟩) := by
  obtain ⟨k, rfl⟩ := Nat.exists_eq_succ_of_ne_zero (Nat.ne_zero_of_lt hn)
  cases h with
  | nil =>
    rw [List.map_nil, spaced, List.nil_append, members, bind_ok (hasMember_brace hlast _ t o)]
    rfl
  | @cons _ s₁ _ name u ms hmember hrest =>
    have hk : ms.length < k := Nat.lt_of_succ_lt_succ hn
    have htail : Ended (commaTail gap (ms.map memberText) ++ (last ++ 0x7D :: t)) :=
      .commaTail hlast _ (by decide) t
    -- the first name comes without a comma
    have hhas : hasMember true ⟨gap ++ (memberText (name, u)
        ++ (commaTail gap (ms.map memberText) ++ (last ++ 0x7D :: t))), o⟩
        = (.ok true, ⟨memberText (name, u)
          ++ (commaTail gap (ms.map memberText) ++ (last ++ 0x7D :: t)), o + gap.length⟩) := by
      rw [memberText_append]
      exact hasMember_quote hgap _ o
    rw [List.map_cons, spaced, List.append_assoc, List.append_assoc,
      members_step hhas hmember htail k, members_more hgap hlast hrest k t _ hk,
      List.length_append, List.length_append]
    simp only [Nat.add_assoc]

/-- A member starts with the quote of its name. -/
theorem starts_memberText (m : String × Bytes) : Starts (memberText m) := by
  obtain ⟨b, u, hu, hb⟩ := starts_stringText m.1
  rw [memberText, hu]
  exact ⟨b, u ++ 0x3A :: m.2, rfl, hb⟩

theorem endObject_brace (t : Bytes) (o : Nat) :
    endObject ⟨0x7D :: t, o⟩ = (.ok (), ⟨t, o + 1⟩) := by
  rw [endObject, bind_ok (peekToken_cons rfl _ o)]
  rfl

/-- An object reads back from its brace on, in whatever layout, as what its members make up. -/
theorem reads_braced (hgap : Blanks gap) (hlast : Blanks last) {a : α} {s s' : σ}
    {ms : List (String × Bytes)} {finish : σ → Reader α} (h : Folds member s ms s')
    (hfinish : ∀ c, finish s' c = (.ok a, c)) :
    Reads (do advance; closedBy (fields member s >>= finish) endObject)
      (laidOut 0x7B 0x7D gap last (ms.map memberText)) a := by
  refine reads_laidOut (fun t o => ?_) endObject_brace
  -- as in a list, every member takes a byte at least
  have hfuel : ms.length
      < 2 * (spaced gap (ms.map memberText) ++ (last ++ 0x7D :: t)).length + 2 := by
    have := length_le_spaced gap ms memberText fun m _ => starts_memberText m
    rw [List.length_append]
    omega
  have hfields : fields member s ⟨spaced gap (ms.map memberText) ++ (last ++ 0x7D :: t), o⟩
      = (.ok s', ⟨0x7D :: t, o + (spaced gap (ms.map memberText)).length + last.length⟩) := by
    rw [fields, bind_ok (stepsLeft_apply _), members_written hgap hlast h hfuel]
  rw [bind_ok hfields, hfinish]

/-- **The text of an object reads back as the record** that its members make up. -/
theorem reads_record {a : α} {s s' : σ} {ms : List (String × Bytes)} (expected : String)
    (fromArray : Reader α) {finish : σ → Reader α} (h : Folds member s ms s')
    (hfinish : ∀ c, finish s' c = (.ok a, c)) :
    Reads (record expected fromArray (fields member s >>= finish)) (objectText ms) a := by
  refine Reads.located (Reads.token rfl rfl ?_)
  dsimp only
  rw [if_neg (by decide), if_pos rfl, objectText_eq_laidOut]
  exact reads_braced .nil .nil h hfinish

/-! ## Members of a known name -/

theorem colon_cons (t : Bytes) (o : Nat) : colon ⟨0x3A :: t, o⟩ = (.ok (), ⟨t, o + 1⟩) := by
  rw [colon, bind_ok (peekToken_cons rfl _ o)]
  rfl

/-- A value reads back after its colon. -/
theorem Reads.memberValue {r : Reader α} {t : Bytes} {a : α} (h : Reads r t a) (name : String) :
    Reads (memberValue name r) (0x3A :: t) a := by
  intro rest o hrest
  rw [Reader.memberValue, List.cons_append, bind_ok (colon_cons _ o),
    within_ok _ (h rest (o + 1) hrest), List.length_cons, Nat.add_assoc, Nat.add_comm 1]

/-- A field that has not been read yet takes its value. -/
theorem Reads.once {r : Reader α} {t : Bytes} {a : α} (h : Reads r t a) (name : String) :
    Reads (once name none r) (0x3A :: t) (some a) := by
  intro rest o hrest
  rw [Reader.once, if_neg (by simp)]
  exact map_ok some (h.memberValue name rest o hrest)

/-- A value that does not start as `null` does is given as such. -/
theorem Reads.optional {r : Reader α} {t u : Bytes} {a : α} {b : UInt8} (h : Reads r t a)
    (ht : t = b :: u) (hblank : isBlank b = false) (hnull : b ≠ 0x6E) :
    Reads (optional r) t (some a) := by
  -- only the letter of `null` decides against the value
  have hsome : Reads (some <$> r) t (some a) := fun rest o hrest => map_ok some (h rest o hrest)
  refine Reads.token ht hblank ?_
  split
  · next hb => exact absurd (Option.some.inj hb) hnull
  · exact hsome

/-- The word `null` reads back as no value. -/
theorem reads_optional_null (r : Reader α) : Reads (optional r) nullText none :=
  Reads.token rfl rfl (reads_word 0x6E _ none)

/-- The name of a variant reads back as the variant. -/
theorem reads_variant {known : List (String × α)} {name : String} {a : α}
    (h : known.lookup name = some a) : Reads (variant known) (Json.stringText name) a := by
  -- an object would name a variant as well, but a written name is a string
  have hname : Reads (variantName known) (Json.stringText name) a := by
    refine Reads.located (Reads.token rfl rfl ?_)
    dsimp only
    rw [if_pos rfl, ← bind_assoc]
    refine (reads_quoted name).bind fun c => ?_
    rw [h]
    rfl
  refine Reads.located (Reads.token rfl rfl ?_)
  dsimp only
  rw [if_neg (by decide), if_pos rfl]
  exact hname

end Reader

end TenantAuth.Json

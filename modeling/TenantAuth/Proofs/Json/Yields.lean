import TenantAuth.Proofs.Json.FreeForm
import TenantAuth.Proofs.Json.Outline

/-!
# What readers make of any text

`Yields r P`: whatever `r` takes as a value has the property `P`, wherever it reads. What is known
of the parts of a reader is put together as the reader is. Free-form data comes with its members in
order and nests no deeper than it may (`yields_value`), and so do tables (`yields_table`).
-/
namespace TenantAuth.Json.Reader

variable {α β σ : Type} {P : α → Prop} {Q : β → Prop}

/-- Whatever the reader takes as a value has the property. -/
def Yields (r : Reader α) (P : α → Prop) : Prop := ∀ ⦃a : α⦄ ⦃c d : Cursor⦄, r c = (.ok a, d) → P a

/-! ## Putting readers together -/

/-- A value that is given yields what holds of it. -/
theorem yields_pure {a : α} (ha : P a) : Yields (pure a) P := by
  intro b c d h
  cases h
  exact ha

/-- A refusal yields nothing, and so anything may be said of it. -/
theorem Refuses.yields {r : Reader α} (hr : Refuses r) : Yields r P := by
  intro a c d h
  obtain ⟨e, he⟩ := hr c
  cases he.symm.trans h

theorem yields_wrongType (expected : String) : Yields (wrongType expected) P :=
  fun _ _ _ h => absurd h wrongType_ne_ok

namespace Yields

/-- What the first step yields is known to the second one. -/
theorem bind {x : Reader α} {F : α → Reader β} (hx : Yields x P) (hF : ∀ a, P a → Yields (F a) Q) :
    Yields (x >>= F) Q := by
  intro b c d h
  obtain ⟨a, e, ha, hb⟩ := bind_eq_ok h
  exact hF a (hx ha) hb

/-- What comes before a value may not matter to it. -/
theorem after {x : Reader α} {F : α → Reader β} (hF : ∀ a, Yields (F a) Q) :
    Yields (x >>= F) Q := by
  intro b c d h
  obtain ⟨a, e, -, hb⟩ := bind_eq_ok h
  exact hF a hb

theorem map {x : Reader α} {f : α → β} (hx : Yields x P) (hf : ∀ a, P a → Q (f a)) :
    Yields (f <$> x) Q := by
  intro b c d h
  obtain ⟨a, ha, rfl⟩ := map_eq_ok h
  exact hf a (hx ha)

theorem located {r : Reader α} (hr : Yields r P) : Yields (located r) P :=
  fun _ _ _ h => hr (located_eq_ok h)

theorem within {r : Reader α} (step : Step) (hr : Yields r P) : Yields (within step r) P :=
  fun _ _ _ h => hr (within_eq_ok h)

/-- What stands between brackets yields what its reader does. -/
theorem closedBy {body : Reader α} {close : Reader Unit} (hbody : Yields body P) :
    Yields (closedBy body close) P := by
  intro a c d h
  obtain ⟨e, ha, -⟩ := closedBy_eq_ok h
  exact hbody ha

/-- The value of a member yields what its reader does. -/
theorem memberValue {value : Reader α} (hvalue : Yields value P) (name : String) :
    Yields (memberValue name value) P :=
  .after fun _ => hvalue.within _

/-- A field holds what its reader yields, if anything. -/
theorem once {value : Reader α} (hvalue : Yields value P) (name : String) (slot : Option α) :
    Yields (once name slot value) fun read => ∀ a ∈ read, P a := by
  rw [Reader.once]
  -- a field that is there twice is refused
  split
  · exact (refuses_failData _).yields
  · refine (hvalue.memberValue name).map fun a ha b hb => ?_
    rwa [← Option.some.inj hb]

/-- So does an item of a record that is written as a list. -/
theorem item {value : Reader α} (hvalue : Yields value P) (index : Nat) (expected : String) :
    Yields (item index expected value) P := by
  refine .after fun more => ?_
  split
  · exact hvalue.within _
  · exact (refuses_failData _).yields

/-- An item that may be missing yields as much, if its default does. -/
theorem itemOr {value : Reader α} (hvalue : Yields value P) (index : Nat) {fallback : α}
    (hfallback : P fallback) : Yields (itemOr index fallback value) P := by
  refine .after fun more => ?_
  split
  · exact hvalue.within _
  · exact yields_pure hfallback

/-- A field that has to be there yields what it holds. -/
theorem required {slot : Option α} (hslot : ∀ a ∈ slot, P a) (name : String) :
    Yields (required name slot) P := by
  cases slot with
  | none => exact (refuses_failData _).yields
  | some a => exact yields_pure (hslot a rfl)

/-- What a reader makes of a whole text is what it makes of its start. -/
theorem whole {r : Reader α} (hr : Yields r P) {text : Bytes} {a : α} (h : whole r text = .ok a) :
    P a := by
  obtain ⟨rest, ha, -⟩ := whole_eq_ok.1 h
  exact hr ha

end Yields

/-! ## Lists and objects -/

/-- A list yields what its items do, all of them. -/
theorem yields_items {item : Reader α} (hitem : Yields item P) : ∀ (n : Nat) {read : List α},
    (∀ a ∈ read, P a) → Yields (items item n read) fun as => ∀ a ∈ as, P a
  | 0, _, _ => (refuses_failNext _).yields
  | n + 1, read, hread => by
    refine .after fun more => ?_
    split
    · refine (hitem.within _).bind fun a ha => ?_
      exact yields_items hitem n (List.forall_mem_cons.2 ⟨ha, hread⟩)
    · exact yields_pure fun a ha => hread a (List.mem_reverse.1 ha)

/-- What every member keeps, a run over the members keeps. -/
theorem yields_members {member : σ → String → Reader σ} {I : σ → Prop}
    (hmember : ∀ s name, I s → Yields (member s name) I) : ∀ (n : Nat) (first : Bool) {s : σ},
      I s → Yields (members member n first s) I
  | 0, _, _, _ => (refuses_failNext _).yields
  | n + 1, first, s, hs => by
    refine .after fun more => ?_
    -- the induction is on the fuel; what is kept is the invariant `I`
    split
    · refine .after fun _ => .after fun name => ?_
      exact (hmember s name hs).bind fun s' hs' => yields_members hmember n false hs'
    · exact yields_pure hs

/-- An invariant of every member holds of all members. -/
theorem yields_fields {member : σ → String → Reader σ} {I : σ → Prop}
    (hmember : ∀ s name, I s → Yields (member s name) I) {s : σ} (hs : I s) :
    Yields (fields member s) I :=
  .after fun n => yields_members hmember n true hs

/-- A record is read from the array of its fields or from an object of them. -/
theorem yields_record {expected : String} {fromArray fromObject : Reader α}
    (harray : Yields fromArray P) (hobject : Yields fromObject P) :
    Yields (record expected fromArray fromObject) P := by
  intro a c d h
  obtain ⟨t, o, e, -, ha, -⟩ | ⟨t, o, e, -, ha, -⟩ := record_eq_ok h
  · exact harray ha
  · exact hobject ha

/-- Members that are set one after the other are in order. -/
theorem yields_putMember {value : Reader α} (hvalue : Yields value P) (ms : List (String × α))
    (name : String) (hms : Ascending ms ∧ ∀ m ∈ ms, P m.2) :
    Yields (putMember value ms name) fun ms => Ascending ms ∧ ∀ m ∈ ms, P m.2 := by
  refine (hvalue.memberValue name).bind fun v hv => yields_pure ⟨hms.1.setMember name v, ?_⟩
  intro m hm
  rcases of_mem_setMember hm with rfl | hm
  · exact hv
  · exact hms.2 m hm

/-- The members of a table are in order. -/
theorem yields_table (value : Reader α) : Yields (table value) Ascending := by
  have hvalue : Yields value fun _ => True := fun _ _ _ _ => trivial
  refine Yields.located (.after fun b => ?_)
  cases b with
  | none => exact (refuses_failNext _).yields
  | some b =>
    dsimp only
    split
    · refine .after fun _ => .closedBy ?_
      intro ms c d h
      -- of the values nothing is known here, but the names are in order
      exact (yields_fields (yields_putMember hvalue) ⟨.nil, List.forall_mem_nil _⟩ h).1
    · exact yields_wrongType _

/-- **Free-form data is in order and nests no deeper than it may.** -/
theorem yields_value (depth : Nat) :
    Yields (value depth) fun v => v.Sorted ∧ v.nesting < depth := by
  induction depth with
  | zero => exact (refuses_failNext _).yields
  | succ depth ih =>
    -- what holds nothing else is at depth zero
    have hscalar : ∀ {v : Json}, v.Sorted → v.nesting = 0 → v.Sorted ∧ v.nesting < depth + 1 := by
      intro v hsorted hnesting
      rw [hnesting]
      exact ⟨hsorted, Nat.succ_pos depth⟩
    have hnumber :
        ∀ x : Number, Yields (pure x.toJson) fun v => v.Sorted ∧ v.nesting < depth + 1 := by
      intro x
      cases x with
      | int n => exact yields_pure (hscalar (.int n) rfl)
      | float x => exact yields_pure (hscalar (.float x) rfl)
    refine .after fun b => ?_
    cases b with
    | none => exact (refuses_failNext _).yields
    | some b =>
      dsimp only
      split
      · exact .after fun _ => .after fun _ => yields_pure (hscalar .null rfl)
      split
      · exact .after fun _ => .after fun _ => yields_pure (hscalar (.bool true) rfl)
      split
      · exact .after fun _ => .after fun _ => yields_pure (hscalar (.bool false) rfl)
      split
      · exact .after fun _ => .after hnumber
      split
      · exact .after hnumber
      split
      · exact .after fun _ => .after fun s => yields_pure (hscalar (.str s) rfl)
      split
      · split
        · exact (refuses_failNext _).yields
        · next hdepth =>
          -- brackets are refused at the last level, so a level is left for what they hold
          obtain ⟨n, rfl⟩ := Nat.exists_eq_succ_of_ne_zero hdepth
          have hitems : ∀ k, Yields (items (value (n + 1)) k []) fun vs =>
              ∀ v ∈ vs, v.Sorted ∧ v.nesting < n + 1 := fun k =>
            yields_items ih k (List.forall_mem_nil _)
          refine .after fun _ => ((Yields.after hitems).closedBy).bind fun vs hvs => yields_pure ?_
          have hnesting : itemsNesting vs ≤ n :=
            itemsNesting_le.2 fun v hv => Nat.le_of_lt_succ (hvs v hv).2
          refine ⟨.arr fun v hv => (hvs v hv).1, ?_⟩
          rw [nesting]
          omega
      split
      · split
        · exact (refuses_failNext _).yields
        · next hdepth =>
          obtain ⟨n, rfl⟩ := Nat.exists_eq_succ_of_ne_zero hdepth
          have hmembers := yields_fields (yields_putMember ih) ⟨.nil, List.forall_mem_nil _⟩
          refine .after fun _ => (hmembers.closedBy).bind fun ms hms => yields_pure ?_
          have hnesting : membersNesting ms ≤ n :=
            membersNesting_le.2 fun m hm => Nat.le_of_lt_succ (hms.2 m hm).2
          refine ⟨.obj hms.1 fun m hm => (hms.2 m hm).1, ?_⟩
          rw [nesting]
          omega
      · exact (refuses_failNext _).yields

end TenantAuth.Json.Reader

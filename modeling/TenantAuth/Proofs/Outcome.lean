/-!
# Outcomes of checks

How a chain of checks in `Except` comes out: a chain gives a value just when each of its links does,
and otherwise the error of the first link that does not.
-/
namespace TenantAuth.Outcome

variable {ε ε' α β : Type}

theorem ok_bind (a : α) (f : α → Except ε β) : ((Except.ok a : Except ε α) >>= f) = f a := rfl

theorem error_bind (e : ε) (f : α → Except ε β) :
    ((Except.error e : Except ε α) >>= f) = .error e := rfl

theorem throw_eq (e : ε) : (throw e : Except ε α) = .error e := rfl

theorem pure_eq (a : α) : (pure a : Except ε α) = .ok a := rfl

/-- A sequence of two steps succeeds just when both of them do. -/
theorem bind_eq_ok {x : Except ε α} {f : α → Except ε β} {b : β} :
    (x >>= f) = .ok b ↔ ∃ a, x = .ok a ∧ f a = .ok b := by
  cases x with
  | error e =>
    constructor
    · intro h
      cases h
    · rintro ⟨a, ha, -⟩
      cases ha
  | ok a =>
    constructor
    · intro h
      exact ⟨a, rfl, h⟩
    · rintro ⟨a', ha, hf⟩
      cases ha
      exact hf

/-- It fails with the error of the first step, or else with that of the second one. -/
theorem bind_eq_error {x : Except ε α} {f : α → Except ε β} {e : ε} :
    (x >>= f) = .error e ↔ x = .error e ∨ ∃ a, x = .ok a ∧ f a = .error e := by
  cases x with
  | error e' =>
    constructor
    · intro h
      cases h
      exact .inl rfl
    · rintro (h | ⟨a, ha, -⟩)
      · cases h
        rfl
      · cases ha
  | ok a =>
    constructor
    · intro h
      exact .inr ⟨a, rfl, h⟩
    · rintro (h | ⟨a', ha, hf⟩)
      · cases h
      · cases ha
        exact hf

/-- Errors in other words do not change what succeeds. -/
theorem mapError_eq_ok {g : ε → ε'} {x : Except ε α} {a : α} :
    x.mapError g = .ok a ↔ x = .ok a := by
  cases x with
  | error e => exact ⟨nofun, nofun⟩
  | ok b => exact ⟨fun h => by cases h; rfl, fun h => by cases h; rfl⟩

/-- An error in other words was an error before. -/
theorem mapError_eq_error {g : ε → ε'} {x : Except ε α} {e' : ε'} :
    x.mapError g = .error e' ↔ ∃ e, x = .error e ∧ g e = e' := by
  cases x with
  | error e =>
    constructor
    · intro h
      cases h
      exact ⟨e, rfl, rfl⟩
    · rintro ⟨_, hx, rfl⟩
      cases hx
      rfl
  | ok b => exact ⟨nofun, fun ⟨_, h, _⟩ => nomatch h⟩

theorem map_eq_error {f : α → β} {x : Except ε α} {e : ε} :
    x.map f = .error e ↔ x = .error e := by
  cases x with
  | error e' => exact ⟨fun h => by cases h; rfl, fun h => by cases h; rfl⟩
  | ok a => exact ⟨nofun, nofun⟩

/-- A success is kept when the errors are forgotten. -/
theorem toOption_eq_some {x : Except ε α} {a : α} : x.toOption = some a ↔ x = .ok a := by
  cases x with
  | error e => exact ⟨nofun, nofun⟩
  | ok b => exact ⟨fun h => congrArg _ (Option.some.inj h), fun h => congrArg _ (Except.ok.inj h)⟩

/-- A check stops the chain just when its condition holds. -/
theorem guard_eq_ok {p : Prop} [Decidable p] {e : ε} {f : α → Except ε β} {x : Except ε β} {b : β} :
    (if p then Except.error e >>= f else x) = .ok b ↔ ¬ p ∧ x = .ok b := by
  by_cases hp : p
  · rw [if_pos hp, error_bind]
    exact ⟨nofun, fun h => absurd hp h.1⟩
  · rw [if_neg hp]
    exact ⟨fun h => ⟨hp, h⟩, fun h => h.2⟩

/-- The rest of a chain is reached just when the check before it has nothing to object to. -/
theorem ite_error_eq_ok {p : Prop} [Decidable p] {e : ε} {x : Except ε α} {a : α} :
    (if p then .error e else x) = .ok a ↔ ¬ p ∧ x = .ok a := by
  by_cases hp : p
  · rw [if_pos hp]
    exact ⟨nofun, fun h => absurd hp h.1⟩
  · rw [if_neg hp]
    exact ⟨fun h => ⟨hp, h⟩, fun h => h.2⟩

/-- What is guarded by an error succeeds where the guard does not hold. -/
theorem dite_error_eq_ok {p : Prop} [Decidable p] {e : ε} {x : ¬ p → Except ε α} {a : α} :
    (if h : p then .error e else x h) = .ok a ↔ ∃ h : ¬ p, x h = .ok a := by
  by_cases hp : p
  · rw [dif_pos hp]
    exact ⟨nofun, fun ⟨h, _⟩ => absurd hp h⟩
  · rw [dif_neg hp]
    exact ⟨fun h => ⟨hp, h⟩, fun ⟨_, h⟩ => h⟩

/-! ## Lists of checks -/

/-- A list of checks gives the list of their values. -/
theorem mapM_eq_ok {f : α → Except ε β} {as : List α} {bs : List β} :
    as.mapM f = .ok bs ↔ as.map f = bs.map .ok := by
  induction as generalizing bs with
  | nil =>
    rw [List.mapM_nil, List.map_nil, eq_comm (a := []), List.map_eq_nil_iff]
    exact ⟨fun h => by cases h; rfl, fun h => by rw [h]; rfl⟩
  | cons a rest ih =>
    rw [List.mapM_cons, List.map_cons, bind_eq_ok]
    constructor
    · rintro ⟨b, ha, h⟩
      obtain ⟨bs', hrest, h⟩ := bind_eq_ok.1 h
      cases h
      rw [ha, ih.1 hrest, List.map_cons]
    · intro h
      -- the values of the rest are those of the list without its first
      cases bs with
      | nil => cases h
      | cons b bs =>
        rw [List.map_cons, List.cons.injEq] at h
        exact ⟨b, h.1, bind_eq_ok.2 ⟨bs, ih.2 h.2, rfl⟩⟩

/-- Errors may be put into other words after the list as well as check by check. -/
theorem mapM_mapError {f : α → Except ε β} {g : ε → ε'} {as : List α} :
    as.mapM (fun a => (f a).mapError g) = (as.mapM f).mapError g := by
  induction as with
  | nil => rfl
  | cons a rest ih =>
    rw [List.mapM_cons, List.mapM_cons, ih]
    cases f a with
    | error e => rfl
    | ok b => cases rest.mapM f <;> rfl

/-- The first check that fails gives the error of the list. -/
theorem mapM_eq_error {f : α → Except ε β} {as : List α} {e : ε} :
    as.mapM f = .error e ↔ ∃ before a after, as = before ++ a :: after ∧
      (∀ x ∈ before, ∃ b, f x = .ok b) ∧ f a = .error e := by
  induction as with
  | nil =>
    refine ⟨nofun, ?_⟩
    rintro ⟨before, a, after, h, -⟩
    cases before <;> cases h
  | cons a rest ih =>
    rw [List.mapM_cons, bind_eq_error]
    constructor
    · rintro (ha | ⟨b, ha, h⟩)
      · exact ⟨[], a, rest, rfl, nofun, ha⟩
      -- the first check has passed, so it comes before the one that fails
      · rcases bind_eq_error.1 h with h | ⟨bs, -, h⟩
        · obtain ⟨before, a', after, rfl, hbefore, ha'⟩ := ih.1 h
          refine ⟨a :: before, a', after, rfl, fun x hx => ?_, ha'⟩
          rcases List.mem_cons.1 hx with rfl | hx
          · exact ⟨b, ha⟩
          · exact hbefore x hx
        · cases h
    · rintro ⟨before, a', after, h, hbefore, ha'⟩
      cases before with
      | nil =>
        cases h
        exact .inl ha'
      | cons x before =>
        cases h
        obtain ⟨b, ha⟩ := hbefore a List.mem_cons_self
        have hrest := ih.2 ⟨before, a', after, rfl,
          fun x hx => hbefore x (List.mem_cons_of_mem a hx), ha'⟩
        exact .inr ⟨b, ha, bind_eq_error.2 (.inl hrest)⟩

/-- A list is gone through if each of its items can be. -/
theorem exists_mapM_eq_ok {f : α → Except ε β} {as : List α} :
    (∃ bs, as.mapM f = .ok bs) ↔ ∀ a ∈ as, ∃ b, f a = .ok b := by
  constructor
  · rintro ⟨bs, h⟩ a ha
    have hmem : f a ∈ bs.map .ok := by
      rw [← mapM_eq_ok.1 h]
      exact List.mem_map_of_mem ha
    obtain ⟨b, -, hb⟩ := List.mem_map.1 hmem
    exact ⟨b, hb.symm⟩
  · intro h
    -- otherwise some check would fail, and each of them passes
    cases hrun : as.mapM f with
    | ok bs => exact ⟨bs, rfl⟩
    | error e =>
      obtain ⟨before, a, after, rfl, -, ha⟩ := mapM_eq_error.1 hrun
      obtain ⟨b, hb⟩ := h a (by simp)
      rw [ha] at hb
      cases hb

end TenantAuth.Outcome

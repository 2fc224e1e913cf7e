import Mathlib.Data.List.Forall2
import TenantAuth.Proofs.Settings.Fields

/-!
# Overrides

Each variable sets its own field and leaves the others alone (`forall₂_sets`). A run through
variables that do so replaces each field by what its variable says (`foldlM_override`), or stops at
the first value that is not understood (`foldlM_of_firstFault`), which only the format of the log
and the two lifetimes can have (`firstFault_fields`).
-/
namespace TenantAuth.Settings

variable {env : Environment} {s s' : Settings} {f : Field} {fs : List Field} {v : Variable}
  {vs : List Variable}

/-! ## One variable -/

/-- Everything but the fields of these variables is as before. -/
def Unchanged (names : List String) (s s' : Settings) : Prop :=
  (∀ g ∈ fields, g.variableName ∉ names → g.get s' = g.get s) ∧ s'.oauth = s.oauth

/-- The variable sets the field to what its value is understood as, and nothing else; a value that
is not understood is refused. -/
structure Sets (v : Variable) (f : Field) : Prop where
  name : v.name = f.variableName
  understood : ∀ {value a} s, f.parse value = .ok a → ∃ s', v.apply value s = .ok s' ∧
    f.get s' = a ∧ Unchanged [f.variableName] s s'
  refused : ∀ {value fault} s, f.parse value = .error fault →
    v.apply value s = .error (.invalid fault)

/-- How the field changes: its variable counts if it is set to something, and else it stays. -/
def Field.Replaced (f : Field) (env : Environment) (s s' : Settings) : Prop :=
  match env.value? f.variableName with
  | some value => f.parse value = .ok (f.get s')
  | none => f.get s' = f.get s

/-- What is wrong with the value of the variable, if it is not understood. -/
def Field.fault? (f : Field) (env : Environment) : Option ConfigFault :=
  match env.value? f.variableName with
  | some value =>
    match f.parse value with
    | .ok _ => none
    | .error fault => some fault
  | none => none

/-- What is wrong with the first variable that is not understood. -/
def firstFault (env : Environment) (fs : List Field) : Option ConfigFault :=
  fs.findSome? fun f => f.fault? env

/-- A variable that is not understood stops the layers. -/
theorem Sets.override_of_fault (h : Sets v f) {fault : ConfigFault}
    (hfault : f.fault? env = some fault) (s : Settings) :
    Variable.override env s v = .error (.invalid fault) := by
  unfold Field.fault? at hfault
  rw [Variable.override, h.name]
  cases hvalue : env.value? f.variableName with
  | none =>
    rw [hvalue] at hfault
    cases hfault
  | some value =>
    rw [hvalue] at hfault
    dsimp only at hfault
    -- only a value that is set and not understood is a fault
    cases hparse : f.parse value with
    | ok a =>
      rw [hparse] at hfault
      cases hfault
    | error fault' =>
      rw [hparse] at hfault
      cases hfault
      exact h.refused s hparse

/-- A variable that is understood replaces its field and nothing else. -/
theorem Sets.override_of_ok (h : Sets v f) (hfault : f.fault? env = none) (s : Settings) :
    ∃ s', Variable.override env s v = .ok s' ∧ f.Replaced env s s' ∧
      Unchanged [f.variableName] s s' := by
  unfold Field.fault? at hfault
  rw [Variable.override, h.name]
  unfold Field.Replaced
  -- a variable that is not set leaves everything as it is
  cases hvalue : env.value? f.variableName with
  | none => exact ⟨s, rfl, rfl, fun _ _ _ => rfl, rfl⟩
  | some value =>
    rw [hvalue] at hfault
    dsimp only at hfault
    cases hparse : f.parse value with
    | error fault =>
      rw [hparse] at hfault
      cases hfault
    | ok a =>
      obtain ⟨s', happly, hget, hunchanged⟩ := h.understood s hparse
      refine ⟨s', happly, ?_, hunchanged⟩
      show f.parse value = .ok (f.get s')
      rw [hparse, hget]

/-- What the field makes of a value: it is understood as something, or it has this fault. -/
def Field.Understands (f : Field) (understand : String → Option f.Value)
    (fault : String → ConfigFault) : Prop :=
  ∀ value, f.parse value = (understand value).elim (.error (fault value)) .ok

/-- A number of seconds is understood as a decimal numeral, blanks around it left out. -/
theorem understands_seconds (name : String) (get : Settings → Instant) (fallback : Instant)
    (place : List String) : (Field.seconds name get fallback place).Understands
      (fun value => (Text.Decimal.parse? int64Min int64Max (Text.trim value)).bind Instant.ofInt?)
      (.notAnInteger name) := by
  intro value
  dsimp only [Field.seconds]
  cases (Text.Decimal.parse? int64Min int64Max (Text.trim value)).bind Instant.ofInt? <;> rfl

/-- A layout is understood by its name. -/
theorem understands_logFormat (name : String) (get : Settings → LogFormat) (place : List String) :
    (Field.logFormat name get place).Understands LogFormat.ofName? .unknownLogFormat := by
  intro value
  dsimp only [Field.logFormat]
  cases LogFormat.ofName? value <;> rfl

section Understands

variable {understand : String → Option f.Value} {fault : String → ConfigFault}

/-- A variable that understands the values its field does, and finds the same faults in them. -/
theorem Sets.of_understands {set : f.Value → Settings → Settings}
    (hname : v.name = f.variableName) (hf : f.Understands understand fault)
    (happly : ∀ value s, v.apply value s =
      (understand value).elim (.error (.invalid (fault value))) fun a => .ok (set a s))
    (hget : ∀ a s, f.get (set a s) = a)
    (hothers : ∀ a s, Unchanged [f.variableName] s (set a s)) : Sets v f := by
  constructor
  · exact hname
  · intro value a s h
    rw [hf] at h
    rw [happly]
    -- the field understands just the values that the variable does
    cases hvalue : understand value with
    | none =>
      rw [hvalue] at h
      cases h
    | some found =>
      rw [hvalue] at h
      have ha : found = a := Except.ok.inj h
      exact ⟨set found s, rfl, (hget found s).trans ha, hothers found s⟩
  · intro value fault' s h
    rw [hf] at h
    rw [happly]
    cases hvalue : understand value with
    | none =>
      rw [hvalue] at h
      cases h
      rfl
    | some found =>
      rw [hvalue] at h
      cases h

/-- What a field does not understand is its fault. -/
theorem Field.Understands.fault?_eq (hf : f.Understands understand fault) :
    f.fault? env = (env.value? f.variableName).bind fun value =>
      if (understand value).isNone then some (fault value) else none := by
  unfold Field.fault?
  cases env.value? f.variableName with
  | none => rfl
  | some value =>
    rw [Option.bind_some]
    dsimp only
    rw [hf]
    cases understand value <;> rfl

end Understands

/-! ## All variables -/

/-- What two steps leave alone, each in its own names, both of them do. -/
theorem Unchanged.trans {names names' : List String} {s₁ s₂ s₃ : Settings}
    (h : Unchanged names s₁ s₂) (h' : Unchanged names' s₂ s₃) :
    Unchanged (names ++ names') s₁ s₃ := by
  refine ⟨fun g hg hnot => ?_, h'.2.trans h.2⟩
  rw [List.mem_append, not_or] at hnot
  exact (h'.1 g hg hnot.2).trans (h.1 g hg hnot.1)

/-- A run through variables stops at the first that is not understood. -/
theorem foldlM_of_firstFault (h : List.Forall₂ Sets vs fs) {fault : ConfigFault}
    (hfault : firstFault env fs = some fault) (s : Settings) :
    vs.foldlM (Variable.override env) s = .error (.invalid fault) := by
  induction h generalizing s with
  | nil => cases hfault
  | @cons v f vs fs hsets hrest ih =>
    rw [List.foldlM_cons]
    rw [firstFault, List.findSome?_cons] at hfault
    -- the variables are gone through in the order of the fields, up to the first fault
    cases hhead : f.fault? env with
    | some fault' =>
      rw [hhead] at hfault
      cases hfault
      rw [hsets.override_of_fault hhead s]
      rfl
    | none =>
      rw [hhead] at hfault
      obtain ⟨s₁, hstep, -⟩ := hsets.override_of_ok hhead s
      rw [hstep]
      exact ih hfault s₁

/-- **A run through variables replaces the field of each,** and nothing else. -/
theorem foldlM_override (h : List.Forall₂ Sets vs fs)
    (hdistinct : (fs.map Field.variableName).Nodup) (hfields : fs ⊆ fields)
    (hfault : firstFault env fs = none) (s : Settings) :
    ∃ s', vs.foldlM (Variable.override env) s = .ok s' ∧ (∀ f ∈ fs, f.Replaced env s s') ∧
      Unchanged (fs.map Field.variableName) s s' := by
  induction h generalizing s with
  | nil => exact ⟨s, rfl, nofun, fun _ _ _ => rfl, rfl⟩
  | @cons v f vs fs hsets hrest ih =>
    rw [firstFault, List.findSome?_eq_none_iff] at hfault
    -- the induction is on the fields; no variable sets a field of those before it
    obtain ⟨hfresh, hdistinct'⟩ := List.nodup_cons.1 hdistinct
    obtain ⟨hf, hfields'⟩ := List.cons_subset.1 hfields
    obtain ⟨s₁, hstep, hreplaced, hunchanged⟩ :=
      hsets.override_of_ok (hfault f List.mem_cons_self) s
    have hrestFault : firstFault env fs = none :=
      List.findSome?_eq_none_iff.2 fun g hg => hfault g (List.mem_cons_of_mem f hg)
    obtain ⟨s', hrun, hreplaced', hunchanged'⟩ := ih hdistinct' hfields' hrestFault s₁
    refine ⟨s', ?_, ?_, hunchanged.trans hunchanged'⟩
    · rw [List.foldlM_cons, hstep]
      exact hrun
    · -- the first field is set by its variable alone, the others start as they were
      have hkept : f.get s' = f.get s₁ := hunchanged'.1 f hf hfresh
      rw [List.forall_mem_cons]
      refine ⟨?_, fun g hg => ?_⟩
      · unfold Field.Replaced at hreplaced ⊢
        rw [hkept]
        exact hreplaced
      · have hother : g.variableName ∉ [f.variableName] := by
          rw [List.mem_singleton]
          intro heq
          exact hfresh (heq ▸ List.mem_map_of_mem hg)
        have hstart : g.get s₁ = g.get s := hunchanged.1 g (hfields' hg) hother
        have hg' := hreplaced' g hg
        unfold Field.Replaced at hg' ⊢
        rw [hstart] at hg'
        exact hg'

/-! ## The table of variables -/

section Table

variable {name fallback : String} {place : List String}

theorem sets_text {get : Settings → String} {set : String → Settings → Settings}
    (hget : ∀ value s, get (set value s) = value)
    (hothers : ∀ value s, Unchanged [name] s (set value s)) :
    Sets (.text name set) (.text name get fallback place) := by
  refine ⟨rfl, fun {value a} s h => ?_, fun {value fault} s h => nomatch h⟩
  have ha : value = a := Except.ok.inj h
  exact ⟨set value s, rfl, (hget value s).trans ha, hothers value s⟩

theorem sets_path {get : Settings → Option String} {set : String → Settings → Settings}
    (hget : ∀ value s, get (set value s) = some value)
    (hothers : ∀ value s, Unchanged [name] s (set value s)) :
    Sets (.text name set) (.path name get place) := by
  refine ⟨rfl, fun {value a} s h => ?_, fun {value fault} s h => nomatch h⟩
  have ha : some value = a := Except.ok.inj h
  exact ⟨set value s, rfl, (hget value s).trans ha, hothers value s⟩

theorem sets_seconds {get : Settings → Instant} {set : Instant → Settings → Settings}
    {fallback : Instant} (hget : ∀ t s, get (set t s) = t)
    (hothers : ∀ t s, Unchanged [name] s (set t s)) :
    Sets (.integer name set) (.seconds name get fallback place) := by
  have happly : ∀ value s, (Variable.integer name set).apply value s =
      ((Text.Decimal.parse? int64Min int64Max (Text.trim value)).bind Instant.ofInt?).elim
        (.error (.invalid (.notAnInteger name value))) fun t => .ok (set t s) := by
    intro value s
    dsimp only [Variable.integer]
    cases (Text.Decimal.parse? int64Min int64Max (Text.trim value)).bind Instant.ofInt? <;> rfl
  exact .of_understands rfl (understands_seconds name get fallback place) happly hget hothers

theorem sets_logFormat (hothers : ∀ format s, Unchanged [name] s { s with log.format := format }) :
    Sets (.logFormat name) (.logFormat name (·.log.format) place) := by
  have happly : ∀ value s, (Variable.logFormat name).apply value s =
      (LogFormat.ofName? value).elim (.error (.invalid (.unknownLogFormat value))) fun format =>
        .ok { s with log.format := format } := by
    intro value s
    dsimp only [Variable.logFormat]
    cases LogFormat.ofName? value <;> rfl
  exact .of_understands rfl (understands_logFormat name _ place) happly (fun _ _ => rfl) hothers

end Table

/-- **Each variable sets its own field.** -/
theorem forall₂_sets : List.Forall₂ Sets Variable.all fields := by
  have hrows : ∀ {name : String} {s s' : Settings}, s'.oauth = s.oauth →
      (fields.Forall fun g => g.variableName ≠ name → g.get s' = g.get s) →
      Unchanged [name] s s' := by
    intro name s s' hproviders h
    refine ⟨fun g hg hnot => ?_, hproviders⟩
    rw [List.mem_singleton] at hnot
    exact List.forall_iff_forall_mem.1 h g hg hnot
  refine
    .cons (sets_text (fun _ _ => rfl) fun _ _ => hrows rfl ?_) <|
    .cons (sets_text (fun _ _ => rfl) fun _ _ => hrows rfl ?_) <|
    .cons (sets_text (fun _ _ => rfl) fun _ _ => hrows rfl ?_) <|
    .cons (sets_text (fun _ _ => rfl) fun _ _ => hrows rfl ?_) <|
    .cons (sets_logFormat fun _ _ => hrows rfl ?_) <|
    .cons (sets_text (fun _ _ => rfl) fun _ _ => hrows rfl ?_) <|
    .cons (sets_seconds (fun _ _ => rfl) fun _ _ => hrows rfl ?_) <|
    .cons (sets_seconds (fun _ _ => rfl) fun _ _ => hrows rfl ?_) <|
    .cons (sets_path (fun _ _ => rfl) fun _ _ => hrows rfl ?_) <|
    .cons (sets_path (fun _ _ => rfl) fun _ _ => hrows rfl ?_) <|
    .cons (sets_path (fun _ _ => rfl) fun _ _ => hrows rfl ?_) .nil
  -- no other row of the table has the name of the variable, or else its field is another one
  all_goals simp [fields, secretVariable]

/-- No two fields have one variable. -/
theorem nodup_variableNames : (fields.map Field.variableName).Nodup := by
  decide

/-! ## Values that are not understood -/

/-- What is wrong with the format of the log. -/
def unknownFormat (env : Environment) : Option ConfigFault := do
  let value ← env.value? "KEEL_LOG_FORMAT"
  if (LogFormat.ofName? value).isNone then some (.unknownLogFormat value) else none

/-- What is wrong with a number of seconds. -/
def notSeconds (name : String) (env : Environment) : Option ConfigFault := do
  let value ← env.value? name
  if ((Text.Decimal.parse? int64Min int64Max (Text.trim value)).bind Instant.ofInt?).isNone then
    some (.notAnInteger name value)
  else none

/-- A text has no fault. -/
theorem fault?_text (name fallback : String) (get : Settings → String) (place : List String) :
    (Field.text name get fallback place).fault? env = none := by
  unfold Field.fault?
  split <;> rfl

/-- A path has no fault. -/
theorem fault?_path (name : String) (get : Settings → Option String) (place : List String) :
    (Field.path name get place).fault? env = none := by
  unfold Field.fault?
  split <;> rfl

theorem fault?_logFormat (get : Settings → LogFormat) (place : List String) :
    (Field.logFormat "KEEL_LOG_FORMAT" get place).fault? env = unknownFormat env :=
  (understands_logFormat "KEEL_LOG_FORMAT" get place).fault?_eq

theorem fault?_seconds (name : String) (get : Settings → Instant) (fallback : Instant)
    (place : List String) :
    (Field.seconds name get fallback place).fault? env = notSeconds name env :=
  (understands_seconds name get fallback place).fault?_eq

/-- Only the format of the log and the two lifetimes can be wrong. -/
theorem firstFault_fields : firstFault env fields =
    (unknownFormat env <|> notSeconds "KEEL_ACCESS_TTL_SECS" env <|>
      notSeconds "KEEL_REFRESH_TTL_SECS" env) := by
  simp only [firstFault, fields, List.findSome?_cons, List.findSome?_nil, fault?_text, fault?_path,
    fault?_logFormat, fault?_seconds]
  cases unknownFormat env with
  | some fault => rfl
  | none =>
    cases notSeconds "KEEL_ACCESS_TTL_SECS" env with
    | some fault => rfl
    | none => cases notSeconds "KEEL_REFRESH_TTL_SECS" env <;> rfl

end TenantAuth.Settings

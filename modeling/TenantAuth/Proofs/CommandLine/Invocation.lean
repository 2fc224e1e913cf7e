import TenantAuth.CommandLine.Invocation
import TenantAuth.Proofs.Outcome

/-!
# Reading arguments

What arguments are read as does not depend on the help that would be shown for them
(`Level.read_congr`), and so on the environment only where an option of all commands is left out: it
gives the settings file and the secret then (`ofArguments_of_unset`). A settings file that it names
by no name is an error of usage.
-/
namespace TenantAuth.CommandLine

open Outcome

namespace Level

variable {l : Level} {o : Option OptionSpec} {args : List String} {m : Matches}
  {found : Matches × List String}

/-- The help text of a level has no part in what is read. -/
theorem readAfter_congr (help : String) (h : l.readAfter o args m = .ok found) :
    { l with help := help }.readAfter o args m = .ok found := by
  induction args generalizing o m with
  | nil => cases o <;> exact h
  | cons a rest ih =>
    -- the help text is only looked at where reading fails, so every success is the same
    cases o with
    | some o =>
      rw [readAfter] at h ⊢
      split at h
      · cases h
      · next hvalue =>
        rw [if_neg hvalue]
        obtain ⟨m', hm', h⟩ := bind_eq_ok.1 h
        rw [hm']
        exact ih h
    | none =>
      rw [readAfter] at h ⊢
      split at h
      · next hend =>
        rw [if_pos hend]
        exact h
      · next hgoes =>
        rw [if_neg hgoes]
        cases hlong : long? a with
        | none =>
          rw [hlong] at h
          dsimp only at h ⊢
          split at h
          · cases h
          · next hoperand =>
            rw [if_neg hoperand]
            split at h
            · next hnone =>
              rw [if_pos hnone]
              exact h
            · next hsome =>
              rw [if_neg hsome]
              obtain ⟨m', hm', h⟩ := bind_eq_ok.1 h
              refine bind_eq_ok.2 ⟨m', hm', ih h⟩
        | some named =>
          obtain ⟨name, attached⟩ := named
          rw [hlong] at h
          dsimp only at h ⊢
          cases hoption : l.options.find? fun o => o.name = name with
          | none =>
            rw [hoption] at h
            cases h
          | some o =>
            rw [hoption] at h
            dsimp only at h ⊢
            split at h
            · next hswitch =>
              obtain ⟨m', hm', h⟩ := bind_eq_ok.1 h
              exact bind_eq_ok.2 ⟨m', hm', ih h⟩
            · cases h
            · next value v hvalue =>
              obtain ⟨m', hm', h⟩ := bind_eq_ok.1 h
              exact bind_eq_ok.2 ⟨m', hm', ih h⟩
            · exact ih h

/-- The help that would be shown does not matter to what is read. -/
theorem read_congr (help : String) (h : l.read args = .ok found) :
    { l with help := help }.read args = .ok found :=
  readAfter_congr help h

end Level

variable {env : Environment} {args : List String} {i : Invocation} {outer : Matches}
  {c : CommandSpec}

theorem Matches.has_eq_false {m : Matches} {name : String} :
    m.has name = false ↔ m.value? name = Option.none := by
  unfold has value?
  rw [List.any_eq_false, List.lookup_eq_none_iff]
  refine forall₂_congr fun o _ => ?_
  rw [decide_eq_true_iff, eq_comm, bne_iff_ne]

/-- A command falls back on the environment for the options of all commands that it lacks. -/
theorem Invocation.ofCommand_of_unset (h : ofCommand (fun _ => none) outer c args = .ok i)
    (hconfig : i.config = none) (env : Environment) :
    ofCommand env outer c args = if env Settings.fileVariable = some "" then .error .usage else
      .ok { i with
        config := env Settings.fileVariable
        secret := i.secret <|> env Settings.secretVariable } := by
  unfold ofCommand at h ⊢
  dsimp only at h ⊢
  obtain ⟨⟨inner, rest⟩, hread, h⟩ := bind_eq_ok.1 h
  obtain ⟨hrest, h⟩ := guard_eq_ok.1 h
  obtain ⟨hcomplete, h⟩ := guard_eq_ok.1 h
  cases h
  simp only [Option.orElse_eq_orElse, Option.orElse_eq_or, Option.or_eq_none_iff] at hconfig
  obtain ⟨hinner, houter, -⟩ := hconfig
  -- neither the command nor the program was given a file, so the variable decides
  have hfallsBack : ∀ m : Matches, m.value? configOption.name = none →
      fallsBack env m = decide (env Settings.fileVariable ≠ some "") := by
    intro m hm
    rw [fallsBack, Matches.has_eq_false.2 hm, Bool.false_or]
  have hcomplete : complete c inner = true := by
    cases hlacks : complete c inner with
    | true => rfl
    | false =>
      dsimp only at hcomplete
      rw [hlacks] at hcomplete
      exact absurd rfl hcomplete
  rw [Level.read_congr (Help.ofCommand env c) hread, ok_bind, if_neg hrest]
  dsimp only at hinner houter ⊢
  rw [hfallsBack inner hinner, hfallsBack outer houter, hinner, houter, hcomplete]
  -- an empty name is refused; otherwise the variable takes the place of the option
  by_cases hempty : env Settings.fileVariable = some ""
  · rw [if_pos hempty, if_pos (by simp [hempty])]
    rfl
  · rw [if_neg hempty, if_neg (by simp [hempty])]
    cases inner.value? secretOption.name <;> cases outer.value? secretOption.name <;> rfl

/-- The program falls back on the environment likewise. -/
theorem Invocation.ofArguments_of_unset (h : ofArguments (fun _ => none) args = .ok i)
    (hconfig : i.config = none) (env : Environment) :
    ofArguments env args = if env Settings.fileVariable = some "" then .error .usage else
      .ok { i with
        config := env Settings.fileVariable
        secret := i.secret <|> env Settings.secretVariable } := by
  unfold ofArguments at h ⊢
  dsimp only at h ⊢
  obtain ⟨⟨outer, rest⟩, hread, h⟩ := bind_eq_ok.1 h
  -- the options before the command are read alike, whatever the help text says
  rw [Level.read_congr (Help.general env) hread, ok_bind]
  dsimp only at h ⊢
  cases rest with
  | nil => cases h
  | cons name rest =>
    obtain ⟨hname, h⟩ := guard_eq_ok.1 h
    dsimp only
    rw [if_neg hname]
    cases hcommand : command? name with
    | none =>
      rw [hcommand] at h
      cases h
    | some c =>
      rw [hcommand] at h
      exact ofCommand_of_unset h hconfig env

end TenantAuth.CommandLine

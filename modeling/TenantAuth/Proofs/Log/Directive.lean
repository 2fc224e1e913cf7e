import TenantAuth.Log.Directive
import TenantAuth.Proofs.Outcome
import TenantAuth.Proofs.Text.Utf8

/-!
# Directives that are understood

`Legible` is the grammar of directives, and the reader understands just the texts of it
(`exists_ofText_iff`). The characters are those of the text without the blanks around it; the parts
are cut out of the whole text at the same offsets, so that blanks in front of a directive shift what
is taken for its level, and a blank of several bytes may leave a part that cannot be cut out.
-/
namespace TenantAuth

open Outcome

/-! ## Levels and fields -/

/-- A level: none, a number up to five, or a name in letters of either case. -/
def LogLevel.Named (s : String) : Prop :=
  s = "" ∨ (∃ n, Text.Decimal.parse? 0 uint64Max s = some n ∧ n ≤ 5) ∨
    (Text.Decimal.parse? 0 uint64Max s = none ∧ ∃ l : LogLevel, Text.lowerAscii s = l.name)

/-- A text that is not empty is a level if it is one of its names. -/
theorem LogLevel.exists_ofText?_iff {s : String} (h : s ≠ "") :
    (∃ l, ofText? s = some l) ↔ Named s := by
  have hmem : ∀ l : LogLevel, l ∈ all := by
    intro l
    cases l <;> decide
  unfold ofText? Named
  simp only [h, false_or]
  cases Text.Decimal.parse? 0 uint64Max s with
  | some n =>
    have hlength : all.length = 6 := rfl
    -- a number is a place in the list of the levels
    have hsmall : n.toNat < all.length ↔ n ≤ 5 := by omega
    simp only [Option.some.injEq, exists_eq_left', reduceCtorEq, false_and, or_false]
    rw [← hsmall]
    constructor
    · rintro ⟨l, hl⟩
      exact (List.getElem?_eq_some_iff.1 hl).1
    · intro hn
      exact ⟨_, List.getElem?_eq_getElem hn⟩
  | none =>
    have hfilled : s.isEmpty = false := by simp [h]
    simp only [hfilled, reduceCtorEq, false_and, exists_false, true_and, false_or]
    rw [if_neg (by decide)]
    constructor
    · rintro ⟨l, hl⟩
      exact ⟨l, by simpa using List.find?_some hl⟩
    · rintro ⟨l, hl⟩
      rw [← Option.isSome_iff_exists, List.find?_isSome]
      exact ⟨l, hmem l, by simpa using hl⟩

/-- The value of a field: a truth value, a number, or a regular expression that does not ask for
words of any language. -/
def FieldValue.Understood (s : String) : Prop :=
  s = "true" ∨ s = "false" ∨ (∃ n, Text.Decimal.parse? 0 uint64Max s = some n) ∨
    (∃ n, Text.Decimal.parse? int64Min int64Max s = some n) ∨ (∃ x, floatOfText? s = some x) ∨
    ∃ p, Regex.Pattern.ofText? s = some p ∧ p.regex.asksForWords = false

theorem FieldValue.exists_patternOfText_iff {s : String} : (∃ v, patternOfText s = .ok v) ↔
    ∃ p, Regex.Pattern.ofText? s = some p ∧ p.regex.asksForWords = false := by
  unfold patternOfText
  cases Regex.Pattern.ofText? s with
  | none => simp
  | some p => cases hwords : p.regex.asksForWords <;> simp [hwords]

/-- The value of a field is read just when it is understood. -/
theorem FieldValue.exists_ofText_iff {s : String} : (∃ v, ofText s = .ok v) ↔ Understood s := by
  unfold ofText Understood
  by_cases htrue : s = "true"
  · simp [htrue]
  by_cases hfalse : s = "false"
  · simp [hfalse]
  simp only [htrue, hfalse, if_false, false_or]
  -- what is no word is tried as a number of three kinds, and then as a pattern
  cases Text.Decimal.parse? 0 uint64Max s with
  | some n => simp
  | none =>
    cases Text.Decimal.parse? int64Min int64Max s with
    | some n => simp
    | none =>
      cases floatOfText? s with
      | some x => simp
      | none => simp [exists_patternOfText_iff]

/-- A field: not nothing, and with a value that is understood if it has one. -/
def FieldMatch.Understood (s : String) : Prop :=
  s ≠ "" ∧ ∀ name value rest, Text.parts '=' s = name :: value :: rest → FieldValue.Understood value

/-- So is the field, if it is not empty. -/
theorem FieldMatch.exists_ofText_iff {s : String} (h : s ≠ "") :
    (∃ f, ofText s = .ok f) ↔ Understood s := by
  unfold ofText Understood
  split
  · next name value rest hparts =>
    rw [hparts]
    simp only [bind_eq_ok, pure_eq]
    constructor
    · rintro ⟨f, v, hv, -⟩
      refine ⟨h, fun name' value' rest' heq => ?_⟩
      cases heq
      exact FieldValue.exists_ofText_iff.1 ⟨v, hv⟩
    · rintro ⟨-, hvalue⟩
      obtain ⟨v, hv⟩ := FieldValue.exists_ofText_iff.2 (hvalue name value rest rfl)
      exact ⟨_, v, hv, rfl⟩
  · next hparts =>
    -- without an equals sign there is no value to be understood
    refine ⟨fun _ => ⟨h, fun name value rest heq => ?_⟩, fun _ => ⟨_, rfl⟩⟩
    exact absurd heq (hparts name value rest)

namespace LogDirective

variable {source : Bytes} {cs name : List Char} {d : LogDirective} {stage : Stage} {i start : Nat}

/-! ## The grammar -/

/-- How many bytes characters take. -/
def width : List Char → Nat
  | [] => 0
  | c :: rest => c.utf8Size + width rest

/-- A character that a name may begin with. -/
def Initial (c : Char) : Prop := c = '-' ∨ c = ':' ∨ c = '_' ∨ Text.isAlphanumeric c = true

/-- A name: up to an equals sign or a bracket all is taken for it. -/
def IsName (cs : List Char) : Prop :=
  (∃ c rest, cs = c :: rest ∧ Initial c) ∧ ∀ c ∈ cs, c ≠ '=' ∧ c ≠ '['

/-- The part from `start` up to `stop` can be cut out, and is like this. -/
def Cuts (source : Bytes) (start stop : Nat) (P : String → Prop) : Prop :=
  ∃ part, slice? source start stop = some part ∧ P part

/-- The part from `start` up to `stop` can be cut out. -/
def Cut (source : Bytes) (start stop : Nat) : Prop := Cuts source start stop fun _ => True

/-- What may follow brackets that end before offset `i`: nothing, or a level. -/
inductive Closing (source : Bytes) (i : Nat) : List Char → Prop where
  | nothing : Closing source i []
  | level (more : List Char) (h : Cuts source (i + 1) source.length LogLevel.Named) :
      Closing source i ('=' :: more)

/-- What may follow the bracket before offset `i`: a span, perhaps with one field between braces. -/
inductive InBrackets (source : Bytes) (i : Nat) : List Char → Prop where
  | span (name more : List Char) (hname : ∀ c ∈ name, c ≠ ']' ∧ c ≠ '{')
      (hcut : Cut source i (i + width name))
      (h : Closing source (i + width name + 1) more) : InBrackets source i (name ++ ']' :: more)
  | field (name field more : List Char) (hname : ∀ c ∈ name, c ≠ ']' ∧ c ≠ '{')
      (hcut : Cut source i (i + width name)) (hfield : ∀ c ∈ field, c ≠ '}')
      (hread : Cuts source (i + width name + 1) (i + width name + 1 + width field)
        FieldMatch.Understood)
      (h : Closing source (i + width name + 1 + width field + 2) more) :
      InBrackets source i (name ++ '{' :: (field ++ '}' :: ']' :: more))

/-- A directive: a name, a name with a level, or brackets with or without a name before them. Each
part can be cut out of the whole text at the offsets that it has without the blanks. -/
inductive Legible (source : Bytes) : List Char → Prop where
  | name (name : List Char) (hname : IsName name) (hcut : Cut source 0 source.length) :
      Legible source name
  | level (name more : List Char) (hname : IsName name) (hcut : Cut source 0 (width name))
      (h : Cuts source (width name + 1) source.length LogLevel.Named) :
      Legible source (name ++ '=' :: more)
  | brackets (name more : List Char) (hname : name = [] ∨ IsName name ∧ Cut source 0 (width name))
      (h : InBrackets source (width name + 1) more) : Legible source (name ++ '[' :: more)

/-! ## Reading -/

/-- A part is cut out where both of its ends stand between characters. -/
theorem cut_eq_ok {stop : Nat} {part : String} :
    cut source start stop = .ok part ↔ slice? source start stop = some part := by
  unfold cut
  cases slice? source start stop with
  | none => exact ⟨nofun, nofun⟩
  | some found => exact ⟨fun h => congrArg some (Except.ok.inj h), fun h => by cases h; rfl⟩

/-- Characters are read one by one. -/
theorem read_cons_eq_ok {c : Char} {r : LogDirective} :
    read source (c :: cs) i d stage = .ok r ↔
      ∃ d' stage', step source d stage i c = .ok (d', stage') ∧
      read source cs (i + c.utf8Size) d' stage' = .ok r := by
  show (step source d stage i c >>= fun next =>
    read source cs (i + c.utf8Size) next.1 next.2) = _ ↔ _
  rw [bind_eq_ok]
  constructor
  · rintro ⟨⟨d', stage'⟩, hstep, hrest⟩
    exact ⟨d', stage', hstep, hrest⟩
  · rintro ⟨d', stage', hstep, hrest⟩
    exact ⟨⟨d', stage'⟩, hstep, hrest⟩

/-- Characters that leave everything as it is only move the offset. -/
theorem read_skip (hstay : ∀ c ∈ name, ∀ i, step source d stage i c = .ok (d, stage)) :
    read source (name ++ cs) i d stage = read source cs (i + width name) d stage := by
  induction name generalizing i with
  | nil => rfl
  | cons c rest ih =>
    have hrest : ∀ x ∈ rest, ∀ i, step source d stage i x = .ok (d, stage) := fun x hx =>
      hstay x (List.mem_cons_of_mem c hx)
    show (step source d stage i c >>= fun next =>
      read source (rest ++ cs) (i + c.utf8Size) next.1 next.2) = _
    rw [hstay c List.mem_cons_self i, ok_bind, width, ← Nat.add_assoc]
    exact ih hrest

/-- A text up to the first of some characters, and what is left. -/
theorem exists_split (P : Char → Prop) [DecidablePred P] (cs : List Char) :
    ∃ name rest, cs = name ++ rest ∧ (∀ c ∈ name, ¬ P c) ∧
      (rest = [] ∨ ∃ c more, rest = c :: more ∧ P c) := by
  induction cs with
  | nil => exact ⟨[], [], rfl, nofun, .inl rfl⟩
  | cons c more ih =>
    by_cases hc : P c
    · exact ⟨[], c :: more, rfl, nofun, .inr ⟨c, more, rfl, hc⟩⟩
    · obtain ⟨name, rest, rfl, hname, hrest⟩ := ih
      exact ⟨c :: name, rest, rfl, List.forall_mem_cons.2 ⟨hc, hname⟩, hrest⟩

/-- After an equals sign all is taken for a level. -/
theorem reads_level (cs : List Char) : (∃ r, read source cs i d (.level start) = .ok r) ↔
    Cuts source start source.length LogLevel.Named := by
  -- the characters after the equals sign change nothing before the end
  have hend : read source cs i d (.level start) = finish source d (.level start) := by
    have hskip : read source (cs ++ []) i d (.level start) =
        read source [] (i + width cs) d (.level start) := read_skip fun _ _ _ => rfl
    rw [List.append_nil] at hskip
    exact hskip
  -- an empty part is a level as well, the most verbose one
  have hlevel : ∀ part, (∃ l, levelOf part = .ok l) ↔ LogLevel.Named part := by
    intro part
    unfold levelOf
    by_cases hnone : part = ""
    · rw [hnone]
      exact ⟨fun _ => .inl rfl, fun _ => ⟨_, rfl⟩⟩
    · rw [← LogLevel.exists_ofText?_iff hnone, if_neg (by simpa using hnone)]
      cases LogLevel.ofText? part with
      | none => exact ⟨nofun, nofun⟩
      | some l => exact ⟨fun _ => ⟨l, rfl⟩, fun _ => ⟨_, rfl⟩⟩
  rw [hend]
  show (∃ r, (cut source start source.length >>= fun part => levelOf part >>= fun l =>
    pure { d with level := l }) = .ok r) ↔ _
  simp only [bind_eq_ok, pure_eq, cut_eq_ok]
  constructor
  · rintro ⟨r, part, hpart, l, hl, -⟩
    exact ⟨part, hpart, (hlevel part).1 ⟨l, hl⟩⟩
  · rintro ⟨part, hpart, hnamed⟩
    obtain ⟨l, hl⟩ := (hlevel part).2 hnamed
    exact ⟨_, part, hpart, l, hl, rfl⟩

/-- Where only one character may stand. -/
theorem reads_expected {c k : Char} {next : Stage}
    (hstep : step source d stage i c = if c = k then .ok (d, next) else .error .malformed) :
    (∃ r, read source (c :: cs) i d stage = .ok r) ↔
      c = k ∧ ∃ r, read source cs (i + c.utf8Size) d next = .ok r := by
  simp only [read_cons_eq_ok]
  by_cases hc : c = k
  · rw [if_pos hc] at hstep
    constructor
    · rintro ⟨r, d', stage', h, hrest⟩
      rw [hstep] at h
      cases h
      exact ⟨hc, r, hrest⟩
    · rintro ⟨-, r, hrest⟩
      exact ⟨r, d, next, hstep, hrest⟩
  · rw [if_neg hc] at hstep
    constructor
    · rintro ⟨r, d', stage', h, -⟩
      rw [hstep] at h
      cases h
    · rintro ⟨h, -⟩
      exact absurd h hc

/-- A character that ends a part: the part has to be one that can be cut out, and then it does not
matter for the rest what it was. -/
theorem reads_cut {c : Char} (make : String → LogDirective) {next : Stage} {Rest : Prop}
    (hstep : step source d stage i c =
      (cut source start i >>= fun part => .ok (make part, next)))
    (hrest : ∀ d', (∃ r, read source cs (i + c.utf8Size) d' next = .ok r) ↔ Rest) :
    (∃ r, read source (c :: cs) i d stage = .ok r) ↔ Cut source start i ∧ Rest := by
  simp only [read_cons_eq_ok, hstep, bind_eq_ok, cut_eq_ok]
  constructor
  · rintro ⟨r, d', stage', ⟨part, hpart, hmade⟩, hr⟩
    cases hmade
    exact ⟨⟨part, hpart, trivial⟩, (hrest _).1 ⟨r, hr⟩⟩
  · rintro ⟨⟨part, hpart, -⟩, h⟩
    obtain ⟨r, hr⟩ := (hrest (make part)).2 h
    exact ⟨r, _, _, ⟨part, hpart, rfl⟩, hr⟩

/-- After the brackets there is nothing more, or a level. -/
theorem reads_target : (∃ r, read source cs i d .target = .ok r) ↔ Closing source i cs := by
  cases cs with
  | nil => exact ⟨fun _ => .nothing, fun _ => ⟨d, rfl⟩⟩
  | cons c more =>
    have hstep : step source d .target i c =
        if c = '=' then .ok (d, .level (i + 1)) else .error .malformed := rfl
    rw [reads_expected hstep, reads_level]
    constructor
    · rintro ⟨rfl, h⟩
      exact .level more h
    · intro h
      cases h with
      | level _ h => exact ⟨rfl, h⟩

/-- After the braces the bracket closes. -/
theorem reads_fields : (∃ r, read source cs i d .fields = .ok r) ↔
    ∃ more, cs = ']' :: more ∧ Closing source (i + 1) more := by
  cases cs with
  | nil =>
    constructor
    · rintro ⟨r, hr⟩
      cases hr
    · rintro ⟨more, h, -⟩
      cases h
  | cons c more =>
    have hstep : step source d .fields i c =
        if c = ']' then .ok (d, .target) else .error .malformed := rfl
    rw [reads_expected hstep, reads_target]
    constructor
    · rintro ⟨rfl, h⟩
      exact ⟨more, rfl, h⟩
    · rintro ⟨_, h, hmore⟩
      cases h
      exact ⟨rfl, hmore⟩

/-- A field is what stands before the first brace that closes, and the brackets end after it. -/
theorem reads_field : (∃ r, read source cs i d (.field start) = .ok r) ↔
    ∃ field more, cs = field ++ '}' :: ']' :: more ∧ (∀ c ∈ field, c ≠ '}') ∧
      Cuts source start (i + width field) FieldMatch.Understood ∧
      Closing source (i + width field + 2) more := by
  have hstay : ∀ field : List Char, (∀ c ∈ field, c ≠ '}') →
      ∀ c ∈ field, ∀ i, step source d (.field start) i c = .ok (d, .field start) :=
    fun field hfield c hc i => if_neg (hfield c hc)
  -- the brace that closes cuts the field out and reads it
  have hstep : ∀ j r, step source d (.field start) j '}' = .ok r ↔
      ∃ part, slice? source start j = some part ∧ part ≠ "" ∧ ∃ f, FieldMatch.ofText part = .ok f ∧
        ({ d with fields := d.fields ++ [f] }, .fields) = r := by
    intro j r
    show (cut source start j >>= fun part => if part.isEmpty then .error .malformed else
      FieldMatch.ofText part >>= fun f => pure ({ d with fields := d.fields ++ [f] }, .fields)) =
        .ok r ↔ _
    simp only [bind_eq_ok, cut_eq_ok]
    refine exists_congr fun part => and_congr_right fun _ => ?_
    by_cases hempty : part = ""
    · simp [hempty]
    · rw [if_neg (by simpa using hempty)]
      simp [hempty, bind_eq_ok, pure_eq]
  constructor
  · rintro ⟨r, hr⟩
    -- the field ends with the first brace that closes, whatever stands in it
    obtain ⟨field, rest, rfl, hfield, hrest⟩ := exists_split (· = '}') cs
    rw [read_skip (hstay field hfield)] at hr
    rcases hrest with rfl | ⟨c, more, rfl, rfl⟩
    · cases hr
    · obtain ⟨d', stage', hd', hrest⟩ := read_cons_eq_ok.1 hr
      obtain ⟨part, hpart, hfilled, f, hf, hnext⟩ := (hstep _ _).1 hd'
      cases hnext
      obtain ⟨more', rfl, hclosing⟩ := reads_fields.1 ⟨r, hrest⟩
      have hread := (FieldMatch.exists_ofText_iff hfilled).1 ⟨f, hf⟩
      exact ⟨field, more', rfl, hfield, ⟨part, hpart, hread⟩, hclosing⟩
  · rintro ⟨field, more, rfl, hfield, ⟨part, hpart, hread⟩, hclosing⟩
    obtain ⟨f, hf⟩ := (FieldMatch.exists_ofText_iff hread.1).2 hread
    obtain ⟨r, hr⟩ := (reads_fields (d := { d with fields := d.fields ++ [f] })).2
      ⟨more, rfl, hclosing⟩
    rw [read_skip (hstay field hfield)]
    exact ⟨r, read_cons_eq_ok.2 ⟨_, _, (hstep _ _).2 ⟨part, hpart, hread.1, f, hf, rfl⟩, hr⟩⟩

/-- Brackets hold the name of a span and perhaps a field. -/
theorem reads_span : (∃ r, read source cs i d (.span i) = .ok r) ↔ InBrackets source i cs := by
  have hstay : ∀ name : List Char, (∀ c ∈ name, c ≠ ']' ∧ c ≠ '{') →
      ∀ c ∈ name, ∀ j, step source d (.span i) j c = .ok (d, .span i) := by
    intro name hname c hc j
    unfold step
    dsimp only
    rw [if_neg (hname c hc).1, if_neg (hname c hc).2]
  -- the name of a span ends with its bracket, or with the brace of a field
  have hbracket : ∀ more j, (∃ r, read source (']' :: more) j d (.span i) = .ok r) ↔
      Cut source i j ∧ Closing source (j + 1) more := fun more j =>
    reads_cut (fun part => { d with span := some part }) rfl fun _ => reads_target
  have hbrace : ∀ more j, (∃ r, read source ('{' :: more) j d (.span i) = .ok r) ↔
      Cut source i j ∧ ∃ field after, more = field ++ '}' :: ']' :: after ∧
        (∀ c ∈ field, c ≠ '}') ∧ Cuts source (j + 1) (j + 1 + width field) FieldMatch.Understood ∧
        Closing source (j + 1 + width field + 2) after := fun more j =>
    reads_cut (fun part => { d with span := if part.isEmpty then none else some part }) rfl
      fun _ => reads_field
  constructor
  · intro h
    obtain ⟨name, rest, rfl, hname, hrest⟩ := exists_split (fun c => c = ']' ∨ c = '{') cs
    have hname : ∀ c ∈ name, c ≠ ']' ∧ c ≠ '{' := fun c hc => not_or.1 (hname c hc)
    rw [read_skip (hstay name hname)] at h
    rcases hrest with rfl | ⟨c, more, rfl, rfl | rfl⟩
    · obtain ⟨r, hr⟩ := h
      cases hr
    · obtain ⟨hcut, hclosing⟩ := (hbracket _ _).1 h
      exact .span name more hname hcut hclosing
    · obtain ⟨hcut, field, after, rfl, hfield, hread, hclosing⟩ := (hbrace _ _).1 h
      exact .field name field after hname hcut hfield hread hclosing
  · intro h
    cases h with
    | span name more hname hcut hclosing =>
      rw [read_skip (hstay name hname)]
      exact (hbracket _ _).2 ⟨hcut, hclosing⟩
    | field name field more hname hcut hfield hread hclosing =>
      rw [read_skip (hstay name hname)]
      exact (hbrace _ _).2 ⟨hcut, field, more, rfl, hfield, hread, hclosing⟩

/-- The characters of a name are passed over. -/
theorem reads_name (hname : IsName name) : (∃ r, read source (name ++ cs) 0 d .start = .ok r) ↔
    ∃ r, read source cs (width name) d (.levelOrTarget 0) = .ok r := by
  obtain ⟨⟨c, rest, rfl, hc⟩, hall⟩ := hname
  have hbracket : c ≠ '[' := (hall c List.mem_cons_self).2
  -- the first character is checked once, the others are only searched for what ends the name
  have hinitial : (c = '-' || c = ':' || c = '_' || Text.isAlphanumeric c) = true := by
    simp only [Bool.or_eq_true, decide_eq_true_iff]
    exact or_assoc.2 (or_assoc.2 hc)
  have hstep : step source d .start 0 c = .ok (d, .levelOrTarget 0) := by
    unfold step
    dsimp only
    rw [if_neg hbracket, if_pos hinitial]
  have hstay : ∀ x ∈ rest, ∀ j,
      step source d (.levelOrTarget 0) j x = .ok (d, .levelOrTarget 0) := by
    intro x hx j
    obtain ⟨hequals, hbracket⟩ := hall x (List.mem_cons_of_mem c hx)
    unfold step
    dsimp only
    rw [if_neg hequals, if_neg hbracket]
  show (∃ r, (step source d .start 0 c >>= fun next =>
    read source (rest ++ cs) (0 + c.utf8Size) next.1 next.2) = .ok r) ↔ _
  rw [hstep, ok_bind, read_skip hstay, width, Nat.zero_add]

/-- A name may end the directive. -/
theorem reads_end : (∃ r, read source [] i d (.levelOrTarget start) = .ok r) ↔
    Cut source start source.length := by
  simp only [read, finish, bind_eq_ok, cut_eq_ok]
  constructor
  · rintro ⟨r, part, hpart, -⟩
    exact ⟨part, hpart, trivial⟩
  · rintro ⟨part, hpart, -⟩
    -- it is taken for a level if it is one, and for a target if it is none
    cases hlevel : LogLevel.ofText? part with
    | some l => exact ⟨_, part, hpart, by rw [hlevel]; rfl⟩
    | none => exact ⟨_, part, hpart, by rw [hlevel]; rfl⟩

/-- A level may follow it. -/
theorem reads_equals : (∃ r, read source ('=' :: cs) i d (.levelOrTarget start) = .ok r) ↔
    Cut source start i ∧ Cuts source (i + 1) source.length LogLevel.Named :=
  reads_cut (fun part => { d with target := some part }) rfl fun _ => reads_level cs

/-- So may brackets. -/
theorem reads_bracket : (∃ r, read source ('[' :: cs) i d (.levelOrTarget start) = .ok r) ↔
    Cut source start i ∧ InBrackets source (i + 1) cs :=
  reads_cut (fun part => { d with target := some part }) rfl fun _ => reads_span

/-- What is read follows the grammar. -/
theorem legible_of_reads (h : ∃ r, read source cs 0 d .start = .ok r) : Legible source cs := by
  cases cs with
  | nil =>
    obtain ⟨r, hr⟩ := h
    cases hr
  | cons c more =>
    by_cases hbracket : c = '['
    · subst hbracket
      obtain ⟨r, hr⟩ := h
      obtain ⟨d', stage', hstep, hrest⟩ := read_cons_eq_ok.1 hr
      cases hstep
      exact .brackets [] more (.inl rfl) (reads_span.1 ⟨r, hrest⟩)
    · have hinitial : Initial c := by
        obtain ⟨r, hr⟩ := h
        obtain ⟨d', stage', hstep, -⟩ := read_cons_eq_ok.1 hr
        unfold step at hstep
        dsimp only at hstep
        rw [if_neg hbracket] at hstep
        split at hstep
        · next hc => simpa [Initial, or_assoc] using hc
        · cases hstep
      -- an equals sign is no character that a name begins with
      have hequals : c ≠ '=' := by
        rintro rfl
        exact absurd hinitial (by unfold Initial; decide +kernel)
      -- the name goes on up to the first equals sign or bracket
      obtain ⟨name, rest, hsplit, hname, hrest⟩ := exists_split (fun x => x = '=' ∨ x = '[') more
      subst hsplit
      have hwhole : IsName (c :: name) :=
        ⟨⟨c, name, rfl, hinitial⟩, List.forall_mem_cons.2 ⟨⟨hequals, hbracket⟩, fun x hx =>
          not_or.1 (hname x hx)⟩⟩
      have h := (reads_name hwhole).1 h
      rcases hrest with rfl | ⟨x, after, rfl, rfl | rfl⟩
      · rw [List.append_nil]
        exact .name _ hwhole (reads_end.1 h)
      · obtain ⟨hcut, hlevel⟩ := reads_equals.1 h
        exact .level (c :: name) after hwhole hcut hlevel
      · obtain ⟨hcut, hbrackets⟩ := reads_bracket.1 h
        exact .brackets (c :: name) after (.inr ⟨hwhole, hcut⟩) hbrackets

/-- What follows the grammar is read. -/
theorem reads_of_legible (h : Legible source cs) : ∃ r, read source cs 0 d .start = .ok r := by
  cases h with
  | name _ hname hcut =>
    rw [← List.append_nil cs, reads_name hname]
    exact reads_end.2 hcut
  | level name more hname hcut hlevel =>
    rw [reads_name hname]
    exact reads_equals.2 ⟨hcut, hlevel⟩
  | brackets name more hname hbrackets =>
    -- brackets may come first, or after a name
    rcases hname with rfl | ⟨hname, hcut⟩
    · obtain ⟨r, hr⟩ := (reads_span (d := d)).2 hbrackets
      exact ⟨r, read_cons_eq_ok.2 ⟨_, _, rfl, hr⟩⟩
    · rw [reads_name hname]
      exact reads_bracket.2 ⟨hcut, hbrackets⟩

/-- **The directives that are understood are those of the grammar.** -/
theorem exists_ofText_iff {s : String} :
    (∃ d, ofText s = .ok d) ↔ Legible (Text.bytes s) (Text.trim s).toList :=
  ⟨legible_of_reads, reads_of_legible⟩

-- a blank in front: the equals sign is taken for the beginning of the level
example : (ofText " a=debug").toOption = none := by rfl

-- a blank of two bytes in front: the name would end inside of it
example : ofText "\u00a0a[b]" = .error .insideCharacter := by rfl

end LogDirective

end TenantAuth

import TenantAuth.Proofs.Json.FreeForm
import TenantAuth.Proofs.Text.Utf8

/-!
# Values over several lines

What is written for a value over several lines is the byte form of a text (`isText_pretty`): outside
of strings all bytes are ASCII, and escaping turns a text into a text (`isText_stringText`). It
stands for the value (`parse_pretty`), since its lines and their indentation are one of the layouts
that are read.
-/
namespace TenantAuth.Json

open Text

/-! ## Strings -/

/-- What is written for an ASCII byte is ASCII. -/
theorem ascii_escapeByte {b : UInt8} (h : b < 0x80) : Ascii (escapeByte b) :=
  forall_ascii (P := fun b => Ascii (escapeByte b)) (by decide) h

/-- Other bytes are written as they are. -/
theorem escapeByte_of_le {b : UInt8} (h : 0x80 ≤ b) : escapeByte b = [b] := by
  have hb : 0x80 ≤ b.toNat := UInt8.le_iff_toNat_le.1 h
  -- whatever has an escape is an ASCII byte
  have hquote : b ≠ 0x22 := by
    rintro rfl
    exact absurd hb (by decide)
  have hback : b ≠ 0x5C := by
    rintro rfl
    exact absurd hb (by decide)
  have hplain : 0x20 ≤ b := by
    rw [UInt8.le_iff_toNat_le]
    exact Nat.le_trans (by decide) hb
  rw [escapeByte, if_neg hquote, if_neg hback, if_pos hplain]

/-- A string is written as a text. -/
theorem isText_stringText (s : String) : IsText (stringText s) := by
  have hquote : IsText [0x22] := isText_of_ascii (by decide)
  have hinner : IsText ((bytes s).flatMap escapeByte) :=
    (isText_bytes s).rewrite (fun _ => ascii_escapeByte) fun _ => escapeByte_of_le
  exact (hquote.append hinner).append hquote

/-! ## Numbers -/

theorem ascii_ofNat (n : Nat) : Ascii (Decimal.ofNat n) := fun _ hx =>
  Decimal.lt_of_isDigit (Decimal.isDigit_of_mem_ofNat hx)

theorem ascii_ofInt (n : Int) : Ascii (Decimal.ofInt n) := by
  cases n with
  | ofNat n => exact ascii_ofNat n
  | negSucc n => exact ascii_cons.2 ⟨by decide, ascii_ofNat (n + 1)⟩

/-- A number is written in ASCII. -/
theorem Binary64.ascii_text (x : Binary64) : Ascii x.text := by
  unfold text
  dsimp only
  -- which digits and which exponent does not matter here
  generalize stripZeros 17 x.shortest.1 x.shortest.2 = dk
  have hdigits : Ascii (Decimal.ofNat dk.1) := ascii_ofNat dk.1
  have htake : ∀ n, Ascii ((Decimal.ofNat dk.1).take n) := fun n b hb =>
    hdigits b (List.mem_of_mem_take hb)
  have hpoint : ∀ n, Ascii (0x2E :: (Decimal.ofNat dk.1).drop n) := fun n =>
    ascii_cons.2 ⟨by decide, fun b hb => hdigits b (List.mem_of_mem_drop hb)⟩
  have hzeros : ∀ n, Ascii (List.replicate n 0x30) := fun n => ascii_replicate n (by decide)
  generalize hbody : (ite (x.isZero = true) _ _ : Bytes) = body
  have hascii : Ascii body := by
    rw [← hbody]
    split
    · show Ascii [0x30, 0x2E, 0x30]
      decide
    · split
      · exact ascii_append.2 ⟨ascii_append.2 ⟨hdigits, hzeros _⟩, by decide⟩
      · split
        · exact ascii_append.2 ⟨htake _, hpoint _⟩
        · split
          · have hlead : ∀ n, Ascii (0x30 :: 0x2E :: List.replicate n 0x30) := fun n =>
              ascii_cons.2 ⟨by decide, ascii_cons.2 ⟨by decide, hzeros n⟩⟩
            exact ascii_append.2 ⟨hlead _, hdigits⟩
          · refine ascii_append.2 ⟨ascii_append.2 ⟨?_, ascii_cons.2 ⟨by decide, ?_⟩⟩, ascii_ofInt _⟩
            · split
              · exact hdigits
              · exact ascii_append.2 ⟨htake 1, hpoint 1⟩
            · split
              · decide
              · decide
  split
  · exact ascii_cons.2 ⟨by decide, hascii⟩
  · exact hascii

/-! ## Values -/

/-- A line break and its indentation are a text. -/
theorem isText_newline (level : Nat) : IsText (newline level) :=
  isText_of_ascii (ascii_cons.2 ⟨by decide, ascii_replicate _ (by decide)⟩)

mutual

/-- **What is written is a text.** -/
theorem isText_pretty (level : Nat) (v : Json) : IsText (pretty level v) := by
  have hempty : IsText [] := isText_bytes ""
  cases v with
  | null => exact isText_of_ascii (b := nullText) (by decide)
  | bool b =>
    cases b with
    | true => exact isText_of_ascii (b := boolText true) (by decide)
    | false => exact isText_of_ascii (b := boolText false) (by decide)
  | int n => exact isText_of_ascii (ascii_ofInt n)
  | float x => exact isText_of_ascii x.ascii_text
  | str s => exact isText_stringText s
  | arr items =>
    -- brackets, line breaks and separators are ASCII, and the parts are texts by induction
    cases items with
    | nil => exact isText_of_ascii (b := [0x5B, 0x5D]) (by decide)
    | cons v rest =>
      have hv := isText_pretty (level + 1) v
      have hrest := isText_prettyItems (level + 1) rest
      have hopen : IsText (0x5B :: newline (level + 1)) := (isText_newline _).cons (by decide)
      have hclose : IsText [0x5D] := hempty.cons (by decide)
      exact (((hopen.append hv).append hrest).append (isText_newline level)).append hclose
  | obj members =>
    cases members with
    | nil => exact isText_of_ascii (b := [0x7B, 0x7D]) (by decide)
    | cons m rest =>
      obtain ⟨name, v⟩ := m
      have hv := isText_pretty (level + 1) v
      have hrest := isText_prettyMembers (level + 1) rest
      have hopen : IsText (0x7B :: newline (level + 1)) := (isText_newline _).cons (by decide)
      have hcolon : IsText [0x3A, 0x20] := isText_of_ascii (by decide)
      have hclose : IsText [0x7D] := hempty.cons (by decide)
      have hfirst := ((hopen.append (isText_stringText name)).append hcolon).append hv
      exact ((hfirst.append hrest).append (isText_newline level)).append hclose

/-- So are the items after the first. -/
theorem isText_prettyItems (level : Nat) (items : List Json) :
    IsText (prettyItems level items) := by
  cases items with
  | nil => exact isText_bytes ""
  | cons v rest =>
    have hv := isText_pretty level v
    have hcomma : IsText (0x2C :: newline level) := (isText_newline level).cons (by decide)
    exact (hcomma.append hv).append (isText_prettyItems level rest)

/-- So are the members after the first. -/
theorem isText_prettyMembers (level : Nat) (members : List (String × Json)) :
    IsText (prettyMembers level members) := by
  cases members with
  | nil => exact isText_bytes ""
  | cons m rest =>
    obtain ⟨name, v⟩ := m
    have hv := isText_pretty level v
    have hcolon : IsText [0x3A, 0x20] := isText_of_ascii (by decide)
    have hcomma : IsText (0x2C :: newline level) := (isText_newline level).cons (by decide)
    have hfirst := ((hcomma.append (isText_stringText name)).append hcolon).append hv
    exact hfirst.append (isText_prettyMembers level rest)

end

/-! ## Reading back -/

open Reader

/-- A line break and its indentation are blanks. -/
theorem blanks_newline (level : Nat) : Blanks (newline level) := by
  intro b hb
  rcases List.mem_cons.1 hb with rfl | hb
  · rfl
  · rw [List.eq_of_mem_replicate hb]
    rfl

/-- The items after the first stand each on a line of its own. -/
theorem prettyItems_eq (level : Nat) (items : List Json) :
    prettyItems level items = commaTail (newline level) (items.map (pretty level)) := by
  induction items with
  | nil => rfl
  | cons v rest ih =>
    rw [prettyItems, ih, List.map_cons, commaTail_cons, List.append_assoc, List.cons_append]

/-- A member with a blank after its colon. -/
theorem memberText_blank (name : String) (t : Bytes) :
    memberText (name, [0x20] ++ t) = stringText name ++ [0x3A, 0x20] ++ t := by
  rw [memberText, List.append_assoc]
  rfl

/-- So do the members after the first. -/
theorem prettyMembers_eq (level : Nat) (members : List (String × Json)) :
    prettyMembers level members = commaTail (newline level)
      (members.map fun m => memberText (m.1, [0x20] ++ pretty level m.2)) := by
  induction members with
  | nil => rfl
  | cons m rest ih =>
    rw [prettyMembers, ih, List.map_cons, commaTail_cons, memberText_blank, List.append_assoc,
      List.append_assoc, List.append_assoc, List.cons_append, List.append_assoc, List.append_assoc]

/-- The text over several lines is one of the texts of the data, at every level. -/
theorem written_pretty {v : Json} (h : v.Integral) (level : Nat) : Written v (pretty level v) := by
  have hblank : Blanks [0x20] := by
    intro b hb
    rw [List.mem_singleton.1 hb]
    rfl
  induction h generalizing level with
  | null => exact .null
  | bool b => exact .bool b
  | int hmin hmax => exact .int hmin hmax
  | str s => exact .str s
  | @arr items hitems ih =>
    cases items with
    -- an empty list stands on one line, any other one has a line for each item
    | nil => exact .arr .nil .nil fun v hv => ih v hv level
    | cons v rest =>
      have hlaid : pretty level (.arr (v :: rest))
          = laidOut 0x5B 0x5D (newline (level + 1)) (newline level)
            ((v :: rest).map (pretty (level + 1))) := by
        rw [pretty, prettyItems_eq, laidOut, List.map_cons, spaced]
        simp only [List.append_assoc, List.cons_append]
      rw [hlaid]
      exact .arr (blanks_newline _) (blanks_newline _) fun v hv => ih v hv _
  | @obj members hmembers ih =>
    cases members with
    | nil => exact .obj .nil .nil .nil fun m hm => ih m hm level
    | cons m rest =>
      have hlaid : pretty level (.obj (m :: rest))
          = laidOut 0x7B 0x7D (newline (level + 1)) (newline level)
            ((m :: rest).map fun m => memberText (m.1, [0x20] ++ pretty (level + 1) m.2)) := by
        rw [pretty, prettyMembers_eq, laidOut, List.map_cons, spaced, memberText_blank]
        simp only [List.append_assoc, List.cons_append]
      rw [hlaid]
      exact .obj (blanks_newline _) hblank (blanks_newline _) fun m hm => ih m hm _

/-- **What is written over several lines stands for the data.** -/
theorem parse_pretty {v : Json} (h : v.Integral) (hdepth : v.nesting < maxDepth) :
    parse (pretty 0 v) = .ok v.sorted :=
  parse_of_written (written_pretty h 0) hdepth

end TenantAuth.Json

import TenantAuth.Proofs.Tls.Body

/-!
# Sections of files

A file as it is written: lines with breaks between them (`Joins`), and among the lines sections,
each between the two delimiters of its label (`Frame`). Reading goes line by line; what it makes of
a whole section is said once (`readLines_frame`), and from there of all that stand in a file one
after the other (`readLines_parts`). A section whose body is no base64 text ends the reading
(`read_of_illegible`).
-/
namespace TenantAuth.Pem

variable {ls ls' : List Bytes} {line file label : Bytes}

/-! ## Lines -/

/-- The three ways in which a line ends. -/
def lineBreaks : List Bytes := [[0x0A], [0x0D], [0x0D, 0x0A]]

/-- The line goes on to its end without a break. -/
def Unbroken (line : Bytes) : Prop := ∀ b ∈ line, b ≠ 0x0A ∧ b ≠ 0x0D

/-- The file consists of the lines, with a break between any two. -/
inductive Joins : List Bytes → Bytes → Prop
  | last {line : Bytes} (hline : Unbroken line) : Joins [line] line
  | more {line lineBreak file : Bytes} {ls : List Bytes} (hline : Unbroken line)
      (hbreak : lineBreak ∈ lineBreaks) (hrest : Joins ls file) :
      Joins (line :: ls) (line ++ lineBreak ++ file)

/-- Lines with one and the same break between them are a file. -/
theorem joins_intercalate {lineBreak : Bytes} (hbreak : lineBreak ∈ lineBreaks) (hne : ls ≠ [])
    (hls : ∀ line ∈ ls, Unbroken line) : Joins ls (lineBreak.intercalate ls) := by
  induction ls with
  | nil => exact absurd rfl hne
  | cons line rest ih =>
    have hline := hls line List.mem_cons_self
    cases rest with
    | nil =>
      rw [List.intercalate_singleton]
      exact .last hline
    | cons next more =>
      rw [List.intercalate_cons_cons]
      exact .more hline hbreak (ih (by simp) fun l hl => hls l (List.mem_cons_of_mem line hl))

theorem lines_last (hline : Unbroken line) : lines line = [line] := by
  induction line with
  | nil => rfl
  | cons b rest ih =>
    obtain ⟨hfeed, hreturn⟩ := hline b List.mem_cons_self
    rw [lines, if_neg (by simp [hfeed, hreturn]),
      ih fun x hx => hline x (List.mem_cons_of_mem b hx)]

/-- A line is what stands before the first break. -/
theorem lines_append {b : UInt8} (hline : Unbroken line) (hb : b = 0x0A ∨ b = 0x0D) (rest : Bytes) :
    lines (line ++ b :: rest) = line :: lines rest := by
  induction line with
  | nil => rw [List.nil_append, lines, if_pos (by simpa using hb)]
  | cons x more ih =>
    obtain ⟨hfeed, hreturn⟩ := hline x List.mem_cons_self
    rw [List.cons_append, lines, if_neg (by simp [hfeed, hreturn]),
      ih fun y hy => hline y (List.mem_cons_of_mem x hy)]

/-- A line without a sign says nothing. -/
theorem readLines_blank (current : Option Bytes) (body : Bytes) :
    readLines current body ([] :: ls) = readLines current body ls := by
  have hstart : startMark.isPrefixOf [] = false := by decide
  have hcloses : ∀ label, closes label [] = false := fun _ => rfl
  cases current with
  | none =>
    rw [readLines, hstart]
    rfl
  | some label =>
    rw [readLines, hstart]
    simp only [Bool.false_eq_true, if_false, hcloses, List.append_nil]

/-- Where the rest of a file is read alike, so it is after one more line. -/
theorem readLines_cons_congr
    (h : ∀ current body, readLines current body ls = readLines current body ls')
    (current : Option Bytes) (body : Bytes) :
    readLines current body (line :: ls) = readLines current body (line :: ls') := by
  cases current with
  | none => simp only [readLines, h]
  | some label => simp only [readLines, h]

/-- **A file is read as its lines are,** in whichever ways they end. -/
theorem readLines_lines (h : Joins ls file) : ∀ current body,
    readLines current body (lines file) = readLines current body ls := by
  induction h with
  | last hline =>
    intro current body
    rw [lines_last hline]
  | @more line lineBreak file ls hline hbreak hrest ih =>
    rw [List.append_assoc]
    rcases List.mem_cons.1 hbreak with rfl | hbreak
    · rw [List.singleton_append, lines_append hline (.inl rfl)]
      exact readLines_cons_congr ih
    rcases List.mem_cons.1 hbreak with rfl | hbreak
    · rw [List.singleton_append, lines_append hline (.inr rfl)]
      exact readLines_cons_congr ih
    -- between a carriage return and its line feed there is an empty line
    rw [List.mem_singleton.1 hbreak]
    have hempty :
        lines (0x0A :: file) = [] :: lines file := @lines_append [] _ nofun (.inl rfl) file
    rw [List.cons_append, List.singleton_append, lines_append hline (.inr rfl), hempty]
    apply readLines_cons_congr
    intro current body
    rw [readLines_blank, ih]

/-! ## Delimiters -/

/-- A section as it is written: its label, the lines of its body, and the number of spaces after
either delimiter. -/
structure Frame where
  label : Bytes
  body : List Bytes
  opening : Nat
  closing : Nat

namespace Frame

/-- The delimiter before the body. -/
def openingLine (f : Frame) : Bytes :=
  startMark ++ f.label ++ dashes ++ List.replicate f.opening 0x20

/-- The delimiter after the body. -/
def closingLine (f : Frame) : Bytes :=
  endMark ++ f.label ++ dashes ++ List.replicate f.closing 0x20

/-- The lines of the section. -/
def lines (f : Frame) : List Bytes := f.openingLine :: f.body ++ [f.closingLine]

end Frame

/-- The last sign of a label that is no space is no dash, which would count with the five that
follow. -/
def EndsLabel (label : Bytes) : Prop :=
  ∀ b ∈ (label.reverse.dropWhile fun b => b = 0x20).head?, b ≠ 0x2D

/-- The line is neither delimiter. -/
def Plain (line : Bytes) : Prop :=
  startMark.isPrefixOf line = false ∧ endMark.isPrefixOf line = false

/-- The delimiters are in order, and none stands in the body. -/
structure Frame.Delimits (f : Frame) : Prop where
  label : EndsLabel f.label
  body : ∀ line ∈ f.body, Plain line

/-- Before the label there are spaces only, as far back as there are dashes and spaces only. -/
theorem takeWhile_label (hlabel : EndsLabel label) :
    ∀ b ∈ (label.reverse ++ startMark.reverse).takeWhile fun b => b = 0x2D || b = 0x20,
      b = 0x20 := by
  unfold EndsLabel at hlabel
  -- seen from the end, the blanks come before what the label ends with
  generalize label.reverse = back at hlabel
  induction back with
  | nil => decide +kernel
  | cons x rest ih =>
    intro b hb
    by_cases hx : x = 0x20
    · subst hx
      rw [List.dropWhile_cons_of_pos (by simp)] at hlabel
      rw [List.cons_append, List.takeWhile_cons_of_pos (by simp)] at hb
      rcases List.mem_cons.1 hb with rfl | hb
      · rfl
      · exact ih hlabel b hb
    · rw [List.dropWhile_cons_of_neg (by simpa using hx)] at hlabel
      have hdash : x ≠ 0x2D := hlabel x rfl
      rw [List.cons_append, List.takeWhile_cons_of_neg (by simp [hx, hdash])] at hb
      cases hb

/-- The label of a delimiter is found, whatever spaces follow it. -/
theorem labelOf?_openingLine {f : Frame} (hlabel : EndsLabel f.label) :
    labelOf? f.openingLine = some f.label := by
  obtain ⟨back, hback⟩ : ∃ back, back = (f.label.reverse ++ startMark.reverse).takeWhile
      fun b => b = 0x2D || b = 0x20 := ⟨_, rfl⟩
  have hspaces : ∀ b ∈ back, b = 0x20 := by
    rw [hback]
    exact takeWhile_label hlabel
  have hmarks : ∀ b ∈ List.replicate f.opening (0x20 : UInt8) ++ dashes,
      (b = 0x2D || b = 0x20 : Bool) = true := by
    intro b hb
    rcases List.mem_append.1 hb with hb | hb
    · simp [List.eq_of_mem_replicate hb]
    · simp [List.eq_of_mem_replicate hb]
  have hreverse : f.openingLine.reverse
      = (List.replicate f.opening 0x20 ++ dashes) ++ (f.label.reverse ++ startMark.reverse) := by
    simp [Frame.openingLine, dashes]
  -- from its end back to the label the line has only spaces and the five dashes
  have htail : (f.openingLine.reverse.takeWhile fun b => b = 0x2D || b = 0x20).reverse.dropWhile
      (· ≠ 0x2D) = dashes ++ List.replicate f.opening 0x20 := by
    rw [hreverse, List.takeWhile_append_of_pos hmarks, ← hback, List.reverse_append,
      List.reverse_append, List.reverse_replicate]
    have hdrop : ∀ b ∈ back.reverse, (b ≠ 0x2D : Bool) = true := by
      intro b hb
      rw [hspaces b (List.mem_reverse.1 hb)]
      rfl
    rw [List.dropWhile_append_of_pos hdrop]
    rfl
  have hcount : (dashes ++ List.replicate f.opening (0x20 : UInt8)).count 0x2D = 5 := by
    rw [List.count_append, List.count_replicate]
    rfl
  have htake : f.openingLine.take (f.openingLine.length - (dashes ++
      List.replicate f.opening (0x20 : UInt8)).length) = startMark ++ f.label := by
    rw [Frame.openingLine, List.append_assoc (startMark ++ f.label), List.length_append,
      Nat.add_sub_cancel, List.take_left]
  unfold labelOf?
  rw [htail]
  dsimp only
  rw [if_pos hcount, htake, List.drop_left]

theorem closes_closingLine (f : Frame) : closes f.label f.closingLine = true := by
  rw [closes, List.isPrefixOf_iff_prefix]
  exact List.prefix_append _ _

/-- Only a delimiter closes a section. -/
theorem closes_of_plain (hline : Plain line) : closes label line = false := by
  rw [Bool.eq_false_iff]
  intro h
  rw [closes, List.isPrefixOf_iff_prefix, List.append_assoc] at h
  have hprefix : endMark <+: line := (List.prefix_append _ _).trans h
  rw [← List.isPrefixOf_iff_prefix, hline.2] at hprefix
  cases hprefix

/-! ## Reading a section -/

theorem readLines_outside (hline : startMark.isPrefixOf line = false) (body : Bytes) :
    readLines none body (line :: ls) = readLines none body ls := by
  rw [readLines, hline]
  rfl

/-- The lines of a body are gathered. -/
theorem readLines_body {body : List Bytes} (hbody : ∀ line ∈ body, Plain line) (read : Bytes) :
    readLines (some label) read (body ++ ls)
      = readLines (some label) (read ++ body.flatten) ls := by
  induction body generalizing read with
  | nil => rw [List.nil_append, List.flatten_nil, List.append_nil]
  | cons line rest ih =>
    have hline := hbody line List.mem_cons_self
    rw [List.cons_append, readLines, hline.1, closes_of_plain hline]
    simp only [Bool.false_eq_true, if_false]
    rw [ih (fun l hl => hbody l (List.mem_cons_of_mem line hl)), List.flatten_cons,
      List.append_assoc]

theorem startMark_openingLine (f : Frame) : startMark.isPrefixOf f.openingLine = true := by
  rw [List.isPrefixOf_iff_prefix, Frame.openingLine, List.append_assoc, List.append_assoc]
  exact List.prefix_append _ _

theorem startMark_closingLine (f : Frame) : startMark.isPrefixOf f.closingLine = false := rfl

/-- **A section is read as a whole:** passed over if its label is not known, decoded if it is, and
then the end of the reading if it cannot be decoded. -/
theorem readLines_frame {f : Frame} (hf : f.Delimits) (ls : List Bytes) :
    readLines none [] (f.lines ++ ls) =
      match Label.ofText? f.label with
      | none => readLines none [] ls
      | some l =>
        match decodeBody f.body.flatten with
        | .error fault => ([], some (.body fault))
        | .ok content =>
          (⟨l, content⟩ :: (readLines none [] ls).1, (readLines none [] ls).2) := by
  rw [Frame.lines, List.cons_append, List.cons_append, List.append_assoc, readLines,
    if_pos (startMark_openingLine f), labelOf?_openingLine hf.label]
  dsimp only
  rw [readLines_body hf.body, List.nil_append, List.singleton_append, readLines,
    startMark_closingLine, closes_closingLine]
  rfl

/-- The bytes of a body, its blanks left out, are no base64 text, padded in full or cut short. -/
def Illegible (body : Bytes) : Prop := ¬ ∃ ss content, Spells body ss ∧ Means ss content

/-- A section with a label that is known ends the reading if its body is illegible. -/
theorem readLines_illegible {f : Frame} (hf : f.Delimits) {l : Label}
    (hlabel : Label.ofText? f.label = some l) (hbody : Illegible f.body.flatten) (ls : List Bytes) :
    ∃ fault, readLines none [] (f.lines ++ ls) = ([], some (.body fault)) := by
  rw [readLines_frame hf, hlabel]
  cases hdecode : decodeBody f.body.flatten with
  | error fault => exact ⟨fault, rfl⟩
  | ok content =>
    obtain ⟨ss, hspells, hmeans⟩ := decodeBody_eq_ok.1 hdecode
    exact absurd ⟨ss, content, hspells, hmeans⟩ hbody

/-! ## Files of sections -/

/-- A section whose body is the base64 text of its content, divided into lines anywhere and with
blanks anywhere. -/
structure Armor extends Frame where
  content : Bytes
  endsLabel : EndsLabel label
  encodes : (body.flatten.filter fun b => !Symbol.isSpace b) = padded content

/-- A line without dashes is no delimiter. -/
theorem plain_of_not_mem (h : (0x2D : UInt8) ∉ line) : Plain line := by
  have hmark : ∀ mark : Bytes, 0x2D ∈ mark → mark.isPrefixOf line = false := by
    intro mark hmem
    rw [Bool.eq_false_iff]
    intro hprefix
    exact h ((List.isPrefixOf_iff_prefix.1 hprefix).subset hmem)
  exact ⟨hmark _ (by decide), hmark _ (by decide)⟩

/-- The base64 text of bytes has neither dashes nor blanks. -/
theorem of_mem_padded {content : Bytes} {b : UInt8} (h : b ∈ padded content) :
    b ≠ 0x2D ∧ Symbol.isSpace b = false := by
  rcases List.mem_append.1 h with h | h
  · exact (Base64.over_encode Base64.standard content).forall
      (P := fun b => b ≠ 0x2D ∧ Symbol.isSpace b = false) (by decide) b h
  · rw [List.eq_of_mem_replicate h]
    decide

namespace Armor

variable (a : Armor)

theorem delimits : a.Delimits where
  label := a.endsLabel
  body := by
    intro line hline
    apply plain_of_not_mem
    intro hdash
    have hmem : (0x2D : UInt8) ∈ a.body.flatten.filter fun b => !Symbol.isSpace b :=
      List.mem_filter.2 ⟨List.mem_flatten.2 ⟨line, hline, hdash⟩, rfl⟩
    rw [a.encodes] at hmem
    exact (of_mem_padded hmem).1 rfl

theorem decodeBody_flatten : decodeBody a.body.flatten = .ok a.content := by
  obtain ⟨ss, hss, hmeans⟩ := means_padded a.content
  refine decodeBody_eq_ok.2 ⟨ss, ?_, hmeans⟩
  rw [Spells, a.encodes, hss]

end Armor

/-- What a file is made of: sections, and lines that open none. -/
inductive Part where
  | line (text : Bytes) (plain : startMark.isPrefixOf text = false)
  | armored (a : Armor)

namespace Part

/-- The lines of a part. -/
def lines : Part → List Bytes
  | .line text _ => [text]
  | .armored a => a.lines

/-- The section that a part is, if its label is known. -/
def section? : Part → Option Section
  | .line .. => none
  | .armored a => (Label.ofText? a.label).map fun l => ⟨l, a.content⟩

end Part

/-- **Nothing is lost and nothing comes in:** the parts of a file are read as the sections with
known labels among them, before all that follows. -/
theorem readLines_parts (parts : List Part) (ls : List Bytes) :
    readLines none [] (parts.flatMap Part.lines ++ ls)
      = (parts.filterMap Part.section? ++ (readLines none [] ls).1, (readLines none [] ls).2) := by
  induction parts with
  | nil => rfl
  | cons part rest ih =>
    rw [List.flatMap_cons, List.append_assoc]
    cases part with
    | line text plain =>
      rw [Part.lines, List.singleton_append, readLines_outside plain, ih]
      rfl
    | armored a =>
      rw [Part.lines, readLines_frame a.delimits, a.decodeBody_flatten, ih]
      -- a section with a label of its own is read and then left out
      cases hlabel : Label.ofText? a.label with
      | none => simp only [List.filterMap_cons, Part.section?, hlabel, Option.map_none]
      | some l =>
        simp only [List.filterMap_cons, Part.section?, hlabel, Option.map_some, List.cons_append]

/-- A file is read line by line, whatever its line breaks are. -/
theorem read_eq_readLines (h : Joins ls file) : read file = readLines none [] ls :=
  readLines_lines h none []

/-- A file of well-formed sections is read without a fault. -/
theorem read_parts {parts : List Part} (h : Joins (parts.flatMap Part.lines) file) :
    read file = (parts.filterMap Part.section?, none) := by
  have hparts := readLines_parts parts []
  rw [List.append_nil] at hparts
  rw [read_eq_readLines h, hparts]
  exact Prod.ext (List.append_nil _) rfl

/-- The first section whose body is illegible is where the reading ends. -/
theorem read_of_illegible {parts : List Part} {f : Frame} {l : Label} (hf : f.Delimits)
    (hlabel : Label.ofText? f.label = some l) (hbody : Illegible f.body.flatten)
    (h : Joins (parts.flatMap Part.lines ++ (f.lines ++ ls)) file) :
    ∃ fault, read file = (parts.filterMap Part.section?, some (.body fault)) := by
  obtain ⟨fault, hfault⟩ := readLines_illegible hf hlabel hbody ls
  refine ⟨fault, ?_⟩
  rw [read_eq_readLines h, readLines_parts, hfault]
  exact Prod.ext (List.append_nil _) rfl

end TenantAuth.Pem

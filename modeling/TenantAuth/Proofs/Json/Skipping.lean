import TenantAuth.Proofs.Json.Records

/-!
# Passing over written values

A written string, integer or list of strings is passed over whole: the reader that checks the
grammar alone stops exactly behind it.
-/
namespace TenantAuth.Json.Reader

/-! ## Strings -/

/-- A quote ends the string. -/
theorem skipString_quote (n : Nat) (t : Bytes) (o : Nat) :
    skipString (n + 1) ⟨0x22 :: t, o⟩ = (.ok (), ⟨t, o + 1⟩) := rfl

/-- A plain byte is passed over. -/
theorem skipString_plain {b : UInt8} (hquote : b ≠ 0x22) (hback : b ≠ 0x5C) (hctl : ¬ b < 0x20)
    (n : Nat) (t : Bytes) (o : Nat) :
    skipString (n + 1) ⟨b :: t, o⟩ = skipString n ⟨t, o + 1⟩ := by
  rw [skipString, bind_ok (peek_cons b t o)]
  dsimp only
  rw [if_neg hquote, if_neg hback, if_neg hctl, bind_ok (advance_cons b t o)]

/-- A backslash hands over to the escape. -/
theorem skipString_escape {t : Bytes} {o : Nat} {c : Cursor}
    (h : skipEscape ⟨t, o + 1⟩ = (.ok (), c)) (n : Nat) :
    skipString (n + 1) ⟨0x5C :: t, o⟩ = skipString n c := by
  rw [skipString, bind_ok (peek_cons _ t o)]
  dsimp only
  rw [if_neg (by decide), if_pos rfl, bind_ok (advance_cons _ t o), bind_ok h]

/-- A short escape is passed over. -/
theorem skipString_pair {x : UInt8} (h : ∀ t o, skipEscape ⟨x :: t, o⟩ = (.ok (), ⟨t, o + 1⟩))
    (n : Nat) (t : Bytes) (o : Nat) :
    skipString (n + 1) ⟨[0x5C, x] ++ t, o⟩ = skipString n ⟨t, o + 2⟩ :=
  skipString_escape (h t (o + 1)) n

/-- One written byte is passed over. -/
theorem skipString_escapeByte (b : UInt8) (n : Nat) (t : Bytes) (o : Nat) :
    skipString (n + 1) ⟨escapeByte b ++ t, o⟩
      = skipString n ⟨t, o + (escapeByte b).length⟩ := by
  unfold escapeByte
  split
  · exact skipString_pair (fun _ _ => rfl) n t o
  split
  · exact skipString_pair (fun _ _ => rfl) n t o
  split
  · next hquote hback hplain =>
    exact skipString_plain hquote hback (fun hctl => absurd hplain (UInt8.not_le.2 hctl)) n t o
  split
  · exact skipString_pair (fun _ _ => rfl) n t o
  split
  · exact skipString_pair (fun _ _ => rfl) n t o
  split
  · exact skipString_pair (fun _ _ => rfl) n t o
  split
  · exact skipString_pair (fun _ _ => rfl) n t o
  split
  · exact skipString_pair (fun _ _ => rfl) n t o
  · next hplain _ _ _ _ _ =>
    have hctl : b.toNat < 0x20 := UInt8.lt_iff_toNat_lt.1 (UInt8.not_le.1 hplain)
    refine skipString_escape ?_ n
    have hhex := hexEscape_control hctl t (o + 1 + 1)
    show skipEscape
      ⟨0x75 :: 0x30 :: 0x30 :: hexDigit (b.toNat / 16) :: hexDigit (b.toNat % 16) :: t,
      o + 1⟩ = _
    rw [skipEscape, bind_ok (next_cons _ _ _)]
    dsimp only
    rw [if_pos rfl, bind_ok hhex]
    rfl

/-- The written bytes of a string are passed over up to the closing quote. -/
theorem skipString_flatMap (bs : Bytes) :
    ∀ (n : Nat) (t : Bytes) (o : Nat), bs.length < n →
      skipString n ⟨bs.flatMap escapeByte ++ 0x22 :: t, o⟩
        = (.ok (), ⟨t, o + (bs.flatMap escapeByte).length + 1⟩) := by
  induction bs with
  | nil =>
    intro n t o hn
    obtain ⟨k, rfl⟩ := Nat.exists_eq_succ_of_ne_zero (Nat.ne_zero_of_lt hn)
    exact skipString_quote k t o
  | cons b rest ih =>
    intro n t o hn
    obtain ⟨k, rfl⟩ := Nat.exists_eq_succ_of_ne_zero (Nat.ne_zero_of_lt hn)
    have hk : rest.length < k := Nat.lt_of_succ_lt_succ hn
    rw [List.flatMap_cons, List.append_assoc, skipString_escapeByte, ih k t _ hk,
      List.length_append, Nat.add_assoc o]

/-! ## Scalars -/

/-- A written string is passed over, in whatever brackets it stands. -/
theorem reads_skipStart_string (opened : List Open) (s : String) :
    Reads (skipStart opened) (Json.stringText s) (.after opened) := by
  intro t o _
  -- every byte of the string is written as at least one
  have hfuel : (Text.bytes s).length
      < 2 * ((Text.bytes s).flatMap escapeByte ++ 0x22 :: t).length + 2 := by
    have := length_le_flatMap_escapeByte (Text.bytes s)
    rw [List.length_append]
    omega
  rw [stringText_append, skipStart, bind_ok (peekToken_cons rfl _ o)]
  dsimp only
  rw [if_neg (by decide), if_neg (by decide), if_neg (by decide), if_neg (by decide),
    if_neg (by decide), if_pos rfl, bind_ok (advance_cons _ _ o), bind_ok (stepsLeft_apply _),
    bind_ok (skipString_flatMap _ _ t (o + 1) hfuel), length_stringText]
  simp only [Nat.add_assoc]
  rfl

/-- Where the value ends after its digits, the number has neither fraction nor exponent. -/
theorem skipNumber_tail {t : Bytes} (ht : Ended t) (o : Nat) :
    (do
      if (← peek) = some 0x2E then
        advance
        if (← digits).isEmpty then failNext .invalidNumber
      if (← peek) = some 0x65 || (← peek) = some 0x45 then
        advance
        if (← peek) = some 0x2B || (← peek) = some 0x2D then advance
        match ← next with
        | none => failHere .invalidNumber
        | some d =>
          if Text.Decimal.isDigit d then
            let _ ← digits
          else failHere .invalidNumber : Reader Unit) ⟨t, o⟩ = (.ok (), ⟨t, o⟩) := by
  refine ht.cases rfl fun u => ?_
  simp only [ends, List.forall_mem_cons]
  exact ⟨rfl, rfl, rfl, rfl, rfl, rfl, rfl, List.forall_mem_nil _⟩

/-- A numeral is passed over. -/
theorem skipNumber_ofNat (n : Nat) {t : Bytes} (ht : Ended t) (o : Nat) :
    skipNumber ⟨Text.Decimal.ofNat n ++ t, o⟩
      = (.ok (), ⟨t, o + (Text.Decimal.ofNat n).length⟩) := by
  -- a zero takes the branch of its own digit, with nothing to follow
  rcases Nat.eq_zero_or_pos n with rfl | hpos
  · have hzero : Text.Decimal.ofNat 0 = [0x30] := by rw [Text.Decimal.ofNat]; rfl
    rw [hzero]
    refine ht.cases rfl fun u => ?_
    simp only [ends, List.forall_mem_cons]
    exact ⟨rfl, rfl, rfl, rfl, rfl, rfl, rfl, List.forall_mem_nil _⟩
  · obtain ⟨d, ds, hds, hd⟩ := ofNat_eq_cons hpos
    have hmem : ∀ x ∈ d :: ds, Text.Decimal.isDigit x := by
      intro x hx
      rw [← hds] at hx
      exact Text.Decimal.isDigit_of_mem_ofNat hx
    have hdigits := digits_append (fun x hx => hmem x (List.mem_cons_of_mem d hx)) ht (o + 1)
    rw [hds, List.cons_append, skipNumber, bind_ok (next_cons d _ o)]
    dsimp only
    rw [if_neg hd, if_pos (hmem d List.mem_cons_self), bind_ok hdigits, List.length_cons,
      Nat.add_comm ds.length, ← Nat.add_assoc]
    exact skipNumber_tail ht _

/-- A written integer is passed over, in whatever brackets it stands. -/
theorem reads_skipStart_int (opened : List Open) (i : Int) :
    Reads (skipStart opened) (intText i) (.after opened) := by
  intro t o ht
  cases i with
  | ofNat n =>
    obtain ⟨d, ds, hds, hd⟩ := exists_digit_ofNat n
    have htext : intText (.ofNat n) = Text.Decimal.ofNat n := rfl
    have hpeek : peekToken ⟨Text.Decimal.ofNat n ++ t, o⟩
        = (.ok (some d), ⟨Text.Decimal.ofNat n ++ t, o⟩) := by
      rw [hds]
      exact peekToken_cons (isBlank_of_isDigit hd) _ o
    rw [htext, skipStart, bind_ok hpeek]
    dsimp only
    rw [if_neg (ne_of_isDigit hd rfl), if_neg (ne_of_isDigit hd rfl), if_neg (ne_of_isDigit hd rfl),
      if_neg (ne_of_isDigit hd rfl), if_pos hd, bind_ok (skipNumber_ofNat n ht o)]
    rfl
  | negSucc n =>
    have htext : intText (.negSucc n) = 0x2D :: Text.Decimal.ofNat (n + 1) := rfl
    rw [htext, List.cons_append, skipStart, bind_ok (peekToken_cons rfl _ o)]
    dsimp only
    rw [if_neg (by decide), if_neg (by decide), if_neg (by decide), if_pos rfl,
      bind_ok (advance_cons _ _ o), bind_ok (skipNumber_ofNat (n + 1) ht (o + 1)), List.length_cons,
      Nat.add_comm (Text.Decimal.ofNat (n + 1)).length, ← Nat.add_assoc]
    rfl

/-- A scalar is all there is to pass over. -/
theorem Reads.skip {t : Bytes} (h : Reads (skipStart []) t (.after [])) : Reads skip t () := by
  intro rest o hrest
  -- two steps are enough: the value, and being done
  have hsteps : 2 * (2 * (t ++ rest).length + 2) = 2 * (2 * (t ++ rest).length + 1) + 2 := by omega
  rw [Reader.skip, bind_ok (stepsLeft_apply _)]
  dsimp only
  rw [hsteps, skipOn, bind_ok (h rest o hrest)]
  rfl

/-- A string is skipped as a whole. -/
theorem reads_skip_string (s : String) : Reads skip (Json.stringText s) () :=
  (reads_skipStart_string [] s).skip

/-- An integer is skipped as a whole. -/
theorem reads_skip_int (i : Int) : Reads skip (intText i) () :=
  (reads_skipStart_int [] i).skip

/-! ## Lists of strings -/

/-- The bracket of a list closes it. -/
theorem skipBetween_close (afterValue : Bool) (opened : List Open) (t : Bytes) (o : Nat) :
    skipBetween afterValue .list opened ⟨0x5D :: t, o⟩ = (.ok (.after opened), ⟨t, o + 1⟩) := by
  rw [skipBetween, bind_ok (peekToken_cons rfl _ o)]
  rfl

/-- A comma announces another item. -/
theorem skipBetween_comma (opened : List Open) (t : Bytes) (o : Nat) :
    skipBetween true .list opened ⟨0x2C :: t, o⟩
      = (.ok (.before (.list :: opened)), ⟨t, o + 1⟩) := by
  rw [skipBetween, bind_ok (peekToken_cons rfl _ o)]
  rfl

/-- The first item comes without a comma. -/
theorem skipBetween_start {t : Bytes} (ht : Starts t) (opened : List Open) (rest : Bytes)
    (o : Nat) :
    skipBetween false .list opened ⟨t ++ rest, o⟩
      = (.ok (.before (.list :: opened)), ⟨t ++ rest, o⟩) := by
  obtain ⟨b, u, rfl, hblank, hclose⟩ := ht
  rw [skipBetween, List.cons_append, bind_ok (peekToken_cons hblank _ o)]
  dsimp only
  rw [Bool.and_false, if_neg (by decide), if_pos (rfl : Open.list = Open.list), if_neg hclose,
    if_neg (by decide)]
  rfl

/-- The strings after the first are passed over, and the bracket after them. -/
theorem skipOn_more (ss : List String) :
    ∀ (n : Nat) (t : Bytes) (o : Nat), 2 * ss.length + 1 < n →
      skipOn n (.inside true .list []) ⟨commaTail [] (ss.map Json.stringText) ++ 0x5D :: t, o⟩
        = (.ok (), ⟨t, o + (commaTail [] (ss.map Json.stringText)).length + 1⟩) := by
  induction ss with
  | nil =>
    intro n t o hn
    -- a string takes two steps, one for its comma and one for itself
    obtain ⟨k, rfl⟩ : ∃ k, n = k + 2 := ⟨n - 2, by omega⟩
    rw [skipOn, List.map_nil, commaTail_nil, List.nil_append,
      bind_ok (skipBetween_close true [] t o)]
    rfl
  | cons s rest ih =>
    intro n t o hn
    rw [List.length_cons] at hn
    obtain ⟨k, rfl⟩ : ∃ k, n = k + 2 := ⟨n - 2, by omega⟩
    have htail : Ended (commaTail [] (rest.map Json.stringText) ++ 0x5D :: t) :=
      .commaTail .nil _ (by decide) t
    have hs := reads_skipStart_string [.list] s _ (o + 1) htail
    rw [skipOn, List.map_cons, commaTail_cons, List.nil_append, List.cons_append,
      List.append_assoc, bind_ok (skipBetween_comma [] _ o), skipOn, bind_ok hs]
    show skipOn k (.inside true .list []) _ = _
    rw [ih k t _ (by omega), List.length_cons, List.length_append]
    simp only [Nat.add_assoc, Nat.add_comm 1]

/-- A written list of strings is passed over. -/
theorem reads_skip_strings (ss : List String) :
    Reads skip (arrayText (ss.map Json.stringText)) () := by
  intro t o _
  have hle := length_le_spaced [] ss Json.stringText fun s _ => starts_stringText s
  have hstart : skipStart [] ⟨0x5B :: (spaced [] (ss.map Json.stringText) ++ 0x5D :: t), o⟩
      = (.ok (.inside false .list []),
        ⟨spaced [] (ss.map Json.stringText) ++ 0x5D :: t, o + 1⟩) := rfl
  -- four steps at least are left, and two more for each string
  have hsteps : ∃ k, 2 * (2 * (0x5B :: (spaced [] (ss.map Json.stringText) ++ 0x5D :: t)).length
      + 2) = k + 4 ∧ 2 * ss.length < k := by
    refine ⟨2 * (2 * (0x5B :: (spaced [] (ss.map Json.stringText) ++ 0x5D :: t)).length),
      by omega, ?_⟩
    rw [List.length_cons, List.length_append]
    omega
  obtain ⟨k, hk, hfuel⟩ := hsteps
  rw [arrayText_eq_laidOut, laidOut_append, List.nil_append, length_laidOut, skip,
    bind_ok (stepsLeft_apply _)]
  dsimp only
  rw [hk, skipOn, bind_ok hstart, skipOn]
  cases ss with
  | nil =>
    rw [List.map_nil, spaced, List.nil_append, bind_ok (skipBetween_close false [] t _)]
    rfl
  | cons s rest =>
    rw [List.length_cons] at hfuel
    have htail : Ended (commaTail [] (rest.map Json.stringText) ++ 0x5D :: t) :=
      .commaTail .nil _ (by decide) t
    have hs := reads_skipStart_string [.list] s _ (o + 1) htail
    rw [List.map_cons, spaced, List.nil_append, List.append_assoc,
      bind_ok (skipBetween_start (starts_stringText s) [] _ _), skipOn, bind_ok hs]
    show skipOn (k + 1) (.inside true .list []) _ = _
    rw [skipOn_more rest (k + 1) t _ (by omega), List.length_append]
    simp only [Nat.add_assoc, List.length_nil, Nat.zero_add, Nat.add_comm 1]

end TenantAuth.Json.Reader

import TenantAuth.Json.Write
import TenantAuth.Proofs.Json.Steps

/-!
# Reading back strings, words and integers

The text of a string reads back as the string, whatever characters it has (`reads_string`), the
words `true` and `false` as what they say (`reads_bool`), and the text of an integer of the 64-bit
range as the integer (`reads_int64`). They follow what the reader does byte by byte:
`stringBytes_escapeByte` takes one written byte, `gather_eq_foldl` adds up a run of digits.
-/
namespace TenantAuth.Json.Reader

/-! ## Strings -/

/-- A quote ends the string. -/
theorem stringBytes_quote (n : Nat) (read t : Bytes) (o : Nat) :
    stringBytes (n + 1) read ⟨0x22 :: t, o⟩ = (.ok read.reverse, ⟨t, o + 1⟩) := rfl

/-- A plain byte is taken as it is. -/
theorem stringBytes_plain {b : UInt8} (hquote : b ≠ 0x22) (hback : b ≠ 0x5C) (hctl : ¬ b < 0x20)
    (n : Nat) (read t : Bytes) (o : Nat) :
    stringBytes (n + 1) read ⟨b :: t, o⟩ = stringBytes n (b :: read) ⟨t, o + 1⟩ := by
  rw [stringBytes, bind_ok (peek_cons b t o)]
  dsimp only
  rw [bind_ok (advance_cons b t o), if_neg hquote, if_neg hback, if_neg hctl]

/-- A backslash hands over to what its escape stands for. -/
theorem stringBytes_escape {t e : Bytes} {o : Nat} {c : Cursor}
    (h : escape ⟨t, o + 1⟩ = (.ok e, c)) (n : Nat) (read : Bytes) :
    stringBytes (n + 1) read ⟨0x5C :: t, o⟩ = stringBytes n (e.reverse ++ read) c := by
  rw [stringBytes, bind_ok (peek_cons _ t o)]
  dsimp only
  rw [bind_ok (advance_cons _ t o), if_neg (by decide), if_pos rfl, bind_ok h]

/-- The digits of a control character have the value of the character. -/
theorem hexEscape_control {n : Nat} (hn : n < 0x20) (t : Bytes) (o : Nat) :
    hexEscape ⟨0x30 :: 0x30 :: hexDigit (n / 16) :: hexDigit (n % 16) :: t, o⟩
      = (.ok n, ⟨t, o + 4⟩) := by
  have each : ∀ k, k < 16 → hexValue? (hexDigit k) = some k := by decide
  have hhigh := each (n / 16) (by omega)
  have hlow := each (n % 16) (by omega)
  have hvalue : ((0 * 16 + 0) * 16 + n / 16) * 16 + n % 16 = n := by omega
  have hzero : hexValue? 0x30 = some 0 := rfl
  rw [hexEscape, bind_ok (get_apply _)]
  dsimp only
  rw [bind_ok (set_apply _ _), hzero, hhigh, hlow]
  dsimp only
  rw [hvalue]
  rfl

/-- The escape of a control character stands for it. -/
theorem escape_control {n : Nat} (hn : n < 0x20) (t : Bytes) (o : Nat) :
    escape ⟨0x75 :: 0x30 :: 0x30 :: hexDigit (n / 16) :: hexDigit (n % 16) :: t, o⟩
      = (.ok [UInt8.ofNat n], ⟨t, o + 5⟩) := by
  have hutf8 : ∀ k, k < 0x20 → utf8 k = [UInt8.ofNat k] := by decide
  rw [escape, bind_ok (next_cons _ _ o)]
  show unicodeEscape _ = _
  rw [unicodeEscape, bind_ok (hexEscape_control hn t (o + 1))]
  -- a control character is no half of a surrogate pair
  have hlow : ¬ (0xDC00 ≤ n) := by omega
  have hhigh : ¬ (0xD800 ≤ n) := by omega
  simp only [hlow, hhigh, decide_false, Bool.false_and, Bool.false_eq_true, if_false]
  rw [hutf8 n hn]
  rfl

/-- A short escape is a backslash and one more byte. -/
theorem stringBytes_pair {x y : UInt8} (h : ∀ t o, escape ⟨x :: t, o⟩ = (.ok [y], ⟨t, o + 1⟩))
    (n : Nat) (read t : Bytes) (o : Nat) :
    stringBytes (n + 1) read ⟨[0x5C, x] ++ t, o⟩ = stringBytes n (y :: read) ⟨t, o + 2⟩ :=
  stringBytes_escape (h t (o + 1)) n read

/-- One written byte is taken as that byte. -/
theorem stringBytes_escapeByte (b : UInt8) (n : Nat) (read t : Bytes) (o : Nat) :
    stringBytes (n + 1) read ⟨escapeByte b ++ t, o⟩
      = stringBytes n (b :: read) ⟨t, o + (escapeByte b).length⟩ := by
  unfold escapeByte
  split
  · next h => subst h; exact stringBytes_pair (fun _ _ => rfl) n read t o
  split
  · next h => subst h; exact stringBytes_pair (fun _ _ => rfl) n read t o
  split
  -- neither a quote, a backslash nor a control character: written as it is
  · next hquote hback hplain =>
    have hctl : ¬ b < 0x20 := fun hctl => absurd hplain (UInt8.not_le.2 hctl)
    exact stringBytes_plain hquote hback hctl n read t o
  split
  · next h => subst h; exact stringBytes_pair (fun _ _ => rfl) n read t o
  split
  · next h => subst h; exact stringBytes_pair (fun _ _ => rfl) n read t o
  split
  · next h => subst h; exact stringBytes_pair (fun _ _ => rfl) n read t o
  split
  · next h => subst h; exact stringBytes_pair (fun _ _ => rfl) n read t o
  split
  · next h => subst h; exact stringBytes_pair (fun _ _ => rfl) n read t o
  -- a control character without a short escape, written in hexadecimal
  · next hplain _ _ _ _ _ =>
    have hctl : b.toNat < 0x20 := UInt8.lt_iff_toNat_lt.1 (UInt8.not_le.1 hplain)
    have hescape := escape_control hctl t (o + 1)
    rw [UInt8.ofNat_toNat] at hescape
    exact stringBytes_escape hescape n read

/-- The written bytes of a string are taken up to the closing quote. -/
theorem stringBytes_flatMap (bs : Bytes) :
    ∀ (n : Nat) (read t : Bytes) (o : Nat), bs.length < n →
      stringBytes n read ⟨bs.flatMap escapeByte ++ 0x22 :: t, o⟩
        = (.ok (read.reverse ++ bs), ⟨t, o + (bs.flatMap escapeByte).length + 1⟩) := by
  induction bs with
  | nil =>
    intro n read t o hn
    obtain ⟨k, rfl⟩ := Nat.exists_eq_succ_of_ne_zero (Nat.ne_of_gt hn)
    rw [List.append_nil]
    exact stringBytes_quote k read t o
  | cons b rest ih =>
    intro n read t o hn
    obtain ⟨k, rfl⟩ := Nat.exists_eq_succ_of_ne_zero (Nat.ne_zero_of_lt hn)
    have hk : rest.length < k := Nat.lt_of_succ_lt_succ hn
    rw [List.flatMap_cons, List.append_assoc, stringBytes_escapeByte, ih k (b :: read) t _ hk,
      List.reverse_cons, List.append_assoc, List.singleton_append, List.length_append,
      Nat.add_assoc o]

/-- No byte is written as nothing. -/
theorem length_le_flatMap_escapeByte (bs : Bytes) : bs.length ≤ (bs.flatMap escapeByte).length := by
  induction bs with
  | nil => exact Nat.le_refl 0
  | cons b rest ih =>
    have hone : 1 ≤ (escapeByte b).length := by
      unfold escapeByte
      repeat' split
      all_goals simp
    rw [List.flatMap_cons, List.length_append, List.length_cons]
    omega

/-- The text of a string after its opening quote reads back. -/
theorem stringText_written (s : String) (t : Bytes) (o : Nat) :
    stringText ⟨(Text.bytes s).flatMap escapeByte ++ 0x22 :: t, o⟩
      = (.ok s, ⟨t, o + ((Text.bytes s).flatMap escapeByte).length + 1⟩) := by
  -- every byte of the string is written as at least one, and the steps are counted on those
  have hfuel : (Text.bytes s).length
      < 2 * ((Text.bytes s).flatMap escapeByte ++ 0x22 :: t).length + 2 := by
    have := length_le_flatMap_escapeByte (Text.bytes s)
    rw [List.length_append]
    omega
  rw [stringText, bind_ok (stepsLeft_apply _), bind_ok (stringBytes_flatMap _ _ [] t o hfuel),
    List.reverse_nil, List.nil_append, Text.ofBytes?_bytes]
  rfl

/-- A string and what follows it, from its opening quote on. -/
theorem stringText_append (s : String) (t : Bytes) :
    Json.stringText s ++ t = 0x22 :: ((Text.bytes s).flatMap escapeByte ++ 0x22 :: t) := by
  rw [Json.stringText, List.cons_append, List.cons_append, List.append_assoc]
  rfl

theorem length_stringText (s : String) :
    (Json.stringText s).length = 1 + ((Text.bytes s).flatMap escapeByte).length + 1 := by
  rw [Json.stringText, List.length_append, List.length_cons]
  simp only [List.length_cons, List.length_nil]
  omega

/-- A string is written with at most six bytes for each of its own, and two quotes. -/
theorem length_stringText_le (s : String) :
    (Json.stringText s).length ≤ 6 * (Text.bytes s).length + 2 := by
  have hescape : ∀ bs : Bytes, (bs.flatMap escapeByte).length ≤ 6 * bs.length := by
    intro bs
    induction bs with
    | nil => exact Nat.le_refl 0
    | cons b rest ih =>
      have hone : (escapeByte b).length ≤ 6 := by
        unfold escapeByte
        repeat' split
        all_goals simp
      rw [List.flatMap_cons, List.length_append, List.length_cons]
      omega
  have hbytes := hescape (Text.bytes s)
  rw [length_stringText]
  omega

/-- The text of a string reads back from its quote on. -/
theorem reads_quoted (s : String) : Reads (do advance; stringText) (Json.stringText s) s := by
  intro t o _
  rw [stringText_append, bind_ok (advance_cons _ _ o), stringText_written, length_stringText]
  simp only [Nat.add_assoc]

/-- The text of a string reads back, whatever a string is called where it is read. -/
theorem reads_stringCalled (expected s : String) :
    Reads (stringCalled expected) (Json.stringText s) s := by
  refine Reads.located (Reads.token rfl rfl ?_)
  dsimp only
  rw [if_pos rfl]
  exact reads_quoted s

/-- **The text of a string reads back.** -/
theorem reads_string (s : String) : Reads string (Json.stringText s) s := reads_stringCalled _ s

/-! ## Words -/

/-- A word is passed over when it is the one that is expected. -/
theorem ident_written (word t : Bytes) (o : Nat) :
    ident word ⟨word ++ t, o⟩ = (.ok (), ⟨t, o + word.length⟩) := by
  induction word generalizing o with
  | nil => rfl
  | cons b rest ih =>
    have hnext : next ⟨b :: rest ++ t, o⟩ = (.ok (some b), ⟨rest ++ t, o + 1⟩) := next_cons b _ o
    rw [ident, bind_ok hnext]
    simp only [if_pos]
    rw [ih, List.length_cons, Nat.add_assoc, Nat.add_comm 1]

/-- A word reads back as what it stands for. -/
theorem reads_word {α : Type} (b : UInt8) (w : Bytes) (a : α) :
    Reads (do advance; ident w; return a) (b :: w) a := by
  intro t o _
  rw [List.cons_append, bind_ok (advance_cons b _ o), bind_ok (ident_written w t (o + 1)),
    List.length_cons, Nat.add_assoc, Nat.add_comm 1]
  rfl

/-- A truth value reads back from its word. -/
theorem reads_bool (b : Bool) : Reads bool (boolText b) b := by
  cases b with
  | true =>
    refine Reads.located (Reads.token rfl rfl ?_)
    dsimp only
    rw [if_pos rfl]
    exact reads_word 0x74 _ _
  | false =>
    refine Reads.located (Reads.token rfl rfl ?_)
    dsimp only
    rw [if_neg (by decide), if_pos rfl]
    exact reads_word 0x66 _ _

/-! ## Integers -/

/-- No digit ends a value. -/
theorem isDigit_eq_false_of_ended : ∀ b ∈ ends, Text.Decimal.isDigit b = false := by
  simp only [ends, List.forall_mem_cons]
  exact ⟨rfl, rfl, rfl, rfl, rfl, rfl, rfl, List.forall_mem_nil _⟩

/-- A run of digits ends where the value ends. -/
theorem digits_append {ds : Bytes} (hds : ∀ d ∈ ds, Text.Decimal.isDigit d) {t : Bytes}
    (ht : Ended t) (o : Nat) : digits ⟨ds ++ t, o⟩ = (.ok ds, ⟨t, o + ds.length⟩) := by
  -- what ends the value is no digit, so the run stops there
  have hnone : t.takeWhile Text.Decimal.isDigit = [] := by
    cases t with
    | nil => rfl
    | cons b u =>
      have hb := isDigit_eq_false_of_ended b (ht b rfl)
      rw [List.takeWhile_cons_of_neg (by simp [hb])]
  have htake : (ds ++ t).takeWhile Text.Decimal.isDigit = ds := by
    rw [List.takeWhile_append_of_pos hds, hnone, List.append_nil]
  have hread : digits ⟨ds ++ t, o⟩
      = (.ok ((ds ++ t).takeWhile Text.Decimal.isDigit),
        ⟨(ds ++ t).drop ((ds ++ t).takeWhile Text.Decimal.isDigit).length,
          o + ((ds ++ t).takeWhile Text.Decimal.isDigit).length⟩) := rfl
  rw [hread, htake, List.drop_left]

/-- More digits never make a number smaller. -/
theorem le_foldl_digits (ds : Bytes) (n : Nat) :
    n ≤ ds.foldl (fun n d => n * 10 + (d.toNat - 0x30)) n := by
  induction ds generalizing n with
  | nil => exact Nat.le_refl n
  | cons d rest ih =>
    have hstep := ih (n * 10 + (d.toNat - 0x30))
    rw [List.foldl_cons]
    omega

/-- Digits whose number fits 64 bits are all added up. -/
theorem gather_eq_foldl (ds : Bytes) (n : Nat)
    (h : ds.foldl (fun n d => n * 10 + (d.toNat - 0x30)) n < 0x10000000000000000) :
    gather n ds = (ds.foldl (fun n d => n * 10 + (d.toNat - 0x30)) n, ds.length, true) := by
  induction ds generalizing n with
  | nil => rfl
  | cons d rest ih =>
    rw [List.foldl_cons] at h
    -- the whole number fits, so no digit on the way is one too many
    have hle := le_foldl_digits rest (n * 10 + (d.toNat - 0x30))
    rw [gather]
    simp only
    rw [if_pos (Nat.lt_of_le_of_lt hle h), ih _ h]
    rfl

/-- A numeral of a number that is not zero starts with a digit other than zero. -/
theorem ofNat_eq_cons {n : Nat} (hn : 0 < n) :
    ∃ d ds, Text.Decimal.ofNat n = d :: ds ∧ d ≠ 0x30 := by
  have each : ∀ k, k < 10 → 0 < k → Text.Decimal.digit k ≠ 0x30 := by decide
  -- the induction is on the numeral, whose last digit is split off
  fun_induction Text.Decimal.ofNat n with
  | case1 n h => exact ⟨_, [], rfl, each n h hn⟩
  | case2 n h ih =>
    obtain ⟨d, ds, hds, hd⟩ := ih (by omega)
    exact ⟨d, ds ++ [Text.Decimal.digit (n % 10)], by rw [hds, List.cons_append], hd⟩

/-- Where the value ends after its digits, the number is an integer. -/
theorem afterInteger_ended {t : Bytes} (ht : Ended t) (negative : Bool) (n : Nat) (o : Nat) :
    afterInteger negative n ⟨t, o⟩
      = (if !negative then return .int n
        else if n = 0 || 0x8000000000000000 < n then .float <$> decimal true n 0
        else return .int (-n) : Reader Number) ⟨t, o⟩ := by
  -- none of the bytes that end a value goes on with the number
  refine ht.cases rfl fun u => ?_
  simp only [ends, List.forall_mem_cons]
  exact ⟨rfl, rfl, rfl, rfl, rfl, rfl, rfl, List.forall_mem_nil _⟩

/-- After the sign, a numeral is read as its number. -/
theorem number_ofNat {n : Nat} (hn : n < 0x10000000000000000) (negative : Bool) {t : Bytes}
    (ht : Ended t) (o : Nat) :
    number negative ⟨Text.Decimal.ofNat n ++ t, o⟩
      = afterInteger negative n ⟨t, o + (Text.Decimal.ofNat n).length⟩ := by
  rcases Nat.eq_zero_or_pos n with rfl | hpos
  · have hzero : Text.Decimal.ofNat 0 = [0x30] := by rw [Text.Decimal.ofNat]; rfl
    rw [hzero, number]
    -- a zero stands alone: what follows it is no digit
    refine ht.cases rfl fun u => ?_
    simp only [ends, List.forall_mem_cons]
    exact ⟨rfl, rfl, rfl, rfl, rfl, rfl, rfl, List.forall_mem_nil _⟩
  · obtain ⟨d, ds, hds, hd⟩ := ofNat_eq_cons hpos
    have hmem : ∀ x ∈ d :: ds, Text.Decimal.isDigit x := by
      intro x hx
      rw [← hds] at hx
      exact Text.Decimal.isDigit_of_mem_ofNat hx
    have hvalue : ds.foldl (fun n d => n * 10 + (d.toNat - 0x30)) (d.toNat - 0x30) = n := by
      have hback := Text.Decimal.toNat_ofNat n
      rw [hds, Text.Decimal.toNat, List.foldl_cons] at hback
      rwa [Nat.zero_mul, Nat.zero_add] at hback
    -- no digit is left over, since the whole number fits 64 bits
    have hgather := gather_eq_foldl ds (d.toNat - 0x30) (by rw [hvalue]; exact hn)
    have hdigits := digits_append (fun x hx => hmem x (List.mem_cons_of_mem d hx)) ht (o + 1)
    rw [hds, List.cons_append, number, bind_ok (next_cons d _ o)]
    dsimp only
    rw [if_neg hd, if_pos (hmem d List.mem_cons_self), bind_ok hdigits, hgather, hvalue]
    dsimp only
    rw [if_pos rfl, List.length_cons, Nat.add_assoc, Nat.add_comm 1]

theorem ne_of_isDigit {b x : UInt8} (hb : Text.Decimal.isDigit b)
    (hx : Text.Decimal.isDigit x = false) : b ≠ x := by
  rintro rfl
  exact absurd hb (by simp [hx])

/-- No digit is a blank. -/
theorem isBlank_of_isDigit {b : UInt8} (hb : Text.Decimal.isDigit b) : isBlank b = false := by
  have hspace := ne_of_isDigit (x := 0x20) hb rfl
  have hline := ne_of_isDigit (x := 0x0A) hb rfl
  have htab := ne_of_isDigit (x := 0x09) hb rfl
  have hreturn := ne_of_isDigit (x := 0x0D) hb rfl
  simp [isBlank, hspace, hline, htab, hreturn]

/-- A numeral starts with a digit. -/
theorem exists_digit_ofNat (n : Nat) :
    ∃ d ds, Text.Decimal.ofNat n = d :: ds ∧ Text.Decimal.isDigit d := by
  cases hds : Text.Decimal.ofNat n with
  | nil =>
    rw [Text.Decimal.ofNat] at hds
    split at hds
    · cases hds
    · exact absurd hds (by simp)
  | cons d ds =>
    refine ⟨d, ds, rfl, Text.Decimal.isDigit_of_mem_ofNat (n := n) ?_⟩
    rw [hds]
    exact List.mem_cons_self

/-- The numeral of a number that is not negative is read by what follows no sign. -/
theorem number_false_ofNat {n : Nat} (hn : n < 0x10000000000000000) {t : Bytes} (ht : Ended t)
    (o : Nat) :
    number false ⟨Text.Decimal.ofNat n ++ t, o⟩
      = (.ok (.int n), ⟨t, o + (Text.Decimal.ofNat n).length⟩) := by
  rw [number_ofNat hn false ht o, afterInteger_ended ht]
  rfl

/-- The numeral of a negative number is read after its sign. -/
theorem number_true_ofNat {n : Nat} (hpos : 0 < n) (hn : n ≤ 0x8000000000000000) {t : Bytes}
    (ht : Ended t) (o : Nat) :
    number true ⟨Text.Decimal.ofNat n ++ t, o⟩
      = (.ok (.int (-n)), ⟨t, o + (Text.Decimal.ofNat n).length⟩) := by
  have hzero : ¬ n = 0 := by omega
  have hover : ¬ 0x8000000000000000 < n := by omega
  rw [number_ofNat (by omega) true ht o, afterInteger_ended ht]
  simp only [Bool.not_true, Bool.false_eq_true, if_false, hzero, hover, decide_false,
    Bool.or_self]
  rfl

/-- **The text of an integer reads back,** where it lies within the bounds that are asked for. -/
theorem reads_integer {lo hi i : Int} (expected : String) (hlo : lo ≤ i) (hhi : i ≤ hi)
    (hmin : int64Min ≤ i) (hmax : i ≤ uint64Max) :
    Reads (integer lo hi expected) (intText i) i := by
  unfold int64Min at hmin
  unfold uint64Max at hmax
  refine Reads.located ?_
  cases i with
  -- a number is written as its digits, and with a sign before them if it is negative
  | ofNat n =>
    obtain ⟨d, ds, hds, hd⟩ := exists_digit_ofNat n
    have hn : n < 0x10000000000000000 := by
      have : (n : Int) ≤ 0xFFFFFFFFFFFFFFFF := hmax
      omega
    have htext : intText (.ofNat n) = Text.Decimal.ofNat n := rfl
    rw [htext]
    refine Reads.token hds (isBlank_of_isDigit hd) ?_
    dsimp only
    rw [if_neg (ne_of_isDigit hd rfl), if_pos hd]
    intro t o ht
    rw [bind_ok (number_false_ofNat hn ht o)]
    dsimp only
    rw [if_pos ⟨hlo, hhi⟩]
    rfl
  | negSucc n =>
    have hn : n + 1 ≤ 0x8000000000000000 := by omega
    have htext : intText (.negSucc n) = 0x2D :: Text.Decimal.ofNat (n + 1) := rfl
    rw [htext]
    refine Reads.token rfl rfl ?_
    dsimp only
    rw [if_pos rfl]
    intro t o ht
    rw [List.cons_append, bind_ok (advance_cons _ _ o),
      bind_ok (number_true_ofNat (Nat.succ_pos n) hn ht (o + 1))]
    dsimp only
    have hneg : (-(n + 1 : Nat) : Int) = .negSucc n := rfl
    rw [hneg, if_pos ⟨hlo, hhi⟩, List.length_cons, Nat.add_assoc, Nat.add_comm 1]
    rfl

/-- A signed number of 64 bits reads back. -/
theorem reads_int64 {i : Int} (hi : IsInt64 i) : Reads int64 (intText i) i := by
  obtain ⟨hlo, hhi⟩ := hi
  have hmax : i ≤ uint64Max := by
    unfold int64Max at hhi
    unfold uint64Max
    omega
  exact reads_integer "i64" hlo hhi hlo hmax

/-- As a free-form value, a numeral is an integer. -/
theorem reads_value_ofNat {n : Nat} (hn : n < 0x10000000000000000) (depth : Nat) :
    Reads (value (depth + 1)) (intText n) (.int n) := by
  obtain ⟨d, ds, hds, hd⟩ := exists_digit_ofNat n
  have htext : intText n = Text.Decimal.ofNat n := rfl
  rw [htext, value, valueWith]
  refine Reads.token hds (isBlank_of_isDigit hd) ?_
  dsimp only
  rw [if_neg (ne_of_isDigit hd rfl), if_neg (ne_of_isDigit hd rfl), if_neg (ne_of_isDigit hd rfl),
    if_neg (ne_of_isDigit hd rfl), if_pos hd]
  intro t o ht
  rw [bind_ok (number_false_ofNat hn ht o)]
  rfl

end TenantAuth.Json.Reader

import TenantAuth.Base64

/-!
# Reading back base64

`decode_encode`: the text of a byte sequence reads back, over every alphabet whose symbols have
their places as values. The symbols of the alphabet for URLs are letters, digits, `-` and `_`; so
a text over it holds no dot and no byte beyond ASCII. A text over the alphabet of password hashes
holds no dollar sign.
-/
namespace TenantAuth.Base64

/-- Each of the 64 symbols has its place as its value, and none is the padding. -/
structure Lawful (a : Base64) : Prop where
  value?_symbol : ∀ n, n < 64 → a.value? (a.symbol n) = some n
  symbol_ne_padding : ∀ n, n < 64 → a.symbol n ≠ padding

theorem url_lawful : url.Lawful := ⟨by decide, by decide⟩

variable {a : Base64}

/-- A symbol is decoded as the number that it stands for, wherever it is. -/
theorem Lawful.valueAt_symbol (ha : a.Lawful) (offset : Nat) {n : Nat} (hn : n < 64) :
    a.valueAt offset (a.symbol n) = .ok n := by
  rw [valueAt, ha.value?_symbol n hn]

/-- A symbol in the last quad is no padding: it is read as its place. -/
theorem Lawful.lastSymbols_go_cons (ha : a.Lawful) (start index : Nat) {n : Nat} (hn : n < 64)
    {rest : Bytes} {symbols : List (UInt8 × Nat)} {pads : Nat}
    (hrest : lastSymbols.go a start (index + 1) rest = .ok (symbols, pads)) :
    lastSymbols.go a start index (a.symbol n :: rest)
      = .ok ((a.symbol n, n) :: symbols, pads) := by
  rw [lastSymbols.go, if_neg (ha.symbol_ne_padding n hn), ha.valueAt_symbol _ hn, hrest]
  rfl

/-- The symbols of places make a last quad of these places, without padding. -/
theorem Lawful.lastSymbols_map (ha : a.Lawful) (start : Nat) (ns : List Nat)
    (hns : ∀ n ∈ ns, n < 64) :
    a.lastSymbols start (ns.map a.symbol) = .ok (ns.map fun n => (a.symbol n, n), 0) := by
  have go : ∀ index, lastSymbols.go a start index (ns.map a.symbol)
      = .ok (ns.map fun n => (a.symbol n, n), 0) := by
    induction ns with
    | nil => intro index; rfl
    | cons n rest ih =>
      intro index
      have hrest := ih (fun k hk => hns k (List.mem_cons_of_mem n hk)) (index + 1)
      exact ha.lastSymbols_go_cons start index (hns n List.mem_cons_self) hrest
  exact go 0

/-! ## The groups of an encoded text -/

/-- The last group of a text reads back when one byte is left for it. -/
theorem Lawful.decodeLast_one (ha : a.Lawful) (start : Nat) (x : UInt8) :
    a.decodeLast start (a.encode [x]) = .ok [x] := by
  have hx := x.toNat_lt
  have hsymbols := ha.lastSymbols_map start [x.toNat * 16 / 64, x.toNat * 16 % 64]
    (by simp only [List.mem_cons, List.not_mem_nil, or_false]; omega)
  have hpads : x.toNat * 16 % 64 % 16 = 0 := by omega
  have hbyte : x.toNat * 16 / 64 * 4 + x.toNat * 16 % 64 / 16 = x.toNat := by omega
  simp only [List.map_cons, List.map_nil] at hsymbols
  simp only [decodeLast, encode, hsymbols, bind, Except.bind, hpads, hbyte, UInt8.ofNat_toNat]
  rfl

/-- It does when two bytes are left. -/
theorem Lawful.decodeLast_two (ha : a.Lawful) (start : Nat) (x y : UInt8) :
    a.decodeLast start (a.encode [x, y]) = .ok [x, y] := by
  have hx := x.toNat_lt
  have hy := y.toNat_lt
  -- the number that the three symbols spell, with two bits left over
  obtain ⟨n, hn⟩ : ∃ n, n = (x.toNat * 256 + y.toNat) * 4 := ⟨_, rfl⟩
  have hsymbols := ha.lastSymbols_map start [n / 4096, n / 64 % 64, n % 64]
    (by simp only [List.mem_cons, List.not_mem_nil, or_false]; omega)
  have hpads : n % 64 % 4 = 0 := by omega
  have hfirst : n / 4096 * 4 + n / 64 % 64 / 16 = x.toNat := by omega
  have hsecond : n / 64 % 64 % 16 * 16 + n % 64 / 4 = y.toNat := by omega
  simp only [List.map_cons, List.map_nil] at hsymbols
  simp only [decodeLast, encode, ← hn, hsymbols, bind, Except.bind, hpads, hfirst, hsecond,
    UInt8.ofNat_toNat]
  rfl

/-- Four symbols hold three bytes. -/
theorem bytes_of_quad (x y z : UInt8) {n : Nat}
    (hn : n = (x.toNat * 256 + y.toNat) * 256 + z.toNat) :
    UInt8.ofNat (n / 262144 * 4 + n / 4096 % 64 / 16) = x
      ∧ UInt8.ofNat (n / 4096 % 64 % 16 * 16 + n / 64 % 64 / 4) = y
      ∧ UInt8.ofNat (n / 64 % 64 % 4 * 64 + n % 64) = z := by
  have hx := x.toNat_lt
  have hy := y.toNat_lt
  have hz := z.toNat_lt
  have hfirst : n / 262144 * 4 + n / 4096 % 64 / 16 = x.toNat := by omega
  have hsecond : n / 4096 % 64 % 16 * 16 + n / 64 % 64 / 4 = y.toNat := by omega
  have hthird : n / 64 % 64 % 4 * 64 + n % 64 = z.toNat := by omega
  rw [hfirst, hsecond, hthird]
  exact ⟨UInt8.ofNat_toNat, UInt8.ofNat_toNat, UInt8.ofNat_toNat⟩

/-- It does when the group is full. -/
theorem Lawful.decodeLast_three (ha : a.Lawful) (start : Nat) (x y z : UInt8) :
    a.decodeLast start (a.encode [x, y, z]) = .ok [x, y, z] := by
  have hx := x.toNat_lt
  -- the number of 24 bits that the four symbols spell
  obtain ⟨n, hn⟩ : ∃ n, n = (x.toNat * 256 + y.toNat) * 256 + z.toNat := ⟨_, rfl⟩
  have hy := y.toNat_lt
  have hz := z.toNat_lt
  have hsymbols := ha.lastSymbols_map start [n / 262144, n / 4096 % 64, n / 64 % 64, n % 64]
    (by simp only [List.mem_cons, List.not_mem_nil, or_false]; omega)
  obtain ⟨hfirst, hsecond, hthird⟩ := bytes_of_quad x y z hn
  simp only [List.map_cons, List.map_nil] at hsymbols
  simp only [decodeLast, encode, ← hn, hsymbols, bind, Except.bind, hfirst, hsecond, hthird]
  rfl

/-- A text of at least one byte has at least one symbol. -/
theorem encode_cons_ne_nil (x : UInt8) (rest : Bytes) : a.encode (x :: rest) ≠ [] := by
  match rest with
  | [] => simp [encode]
  | [y] => simp [encode]
  | y :: z :: more => simp [encode]

/-- Quad by quad, the text of a byte sequence reads back. -/
theorem Lawful.decodeQuads_encode (ha : a.Lawful) :
    ∀ (b : Bytes) (start : Nat), (b = [] → start = 0) →
      a.decodeQuads start (a.encode b) = .ok b
  | [], start, h => by
    rw [h rfl]
    rfl
  | [x], start, _ => ha.decodeLast_one start x
  | [x, y], start, _ => ha.decodeLast_two start x y
  | [x, y, z], start, _ => ha.decodeLast_three start x y z
  | x :: y :: z :: w :: rest, start, _ => by
    obtain ⟨n, hn⟩ : ∃ n, n = (x.toNat * 256 + y.toNat) * 256 + z.toNat := ⟨_, rfl⟩
    have hx := x.toNat_lt
    have hy := y.toNat_lt
    have hz := z.toNat_lt
    have ih := ha.decodeQuads_encode (w :: rest) (start + 4) (by simp)
    obtain ⟨hfirst, hsecond, hthird⟩ := bytes_of_quad x y z hn
    -- there is a quad after this one, so that this one is not decoded as the last
    obtain ⟨t, more, hmore⟩ := List.exists_cons_of_ne_nil (encode_cons_ne_nil (a := a) w rest)
    rw [encode, ← hn, hmore, decodeQuads, ← hmore, ih, ha.valueAt_symbol _ (by omega),
      ha.valueAt_symbol _ (by omega), ha.valueAt_symbol _ (by omega),
      ha.valueAt_symbol _ (by omega)]
    simp only [bind, Except.bind, hfirst, hsecond, hthird]
    rfl

/-- Every symbol of an encoded text is one of the 64. -/
theorem exists_symbol_of_mem_encode (a : Base64) {s : UInt8} :
    ∀ {b : Bytes}, s ∈ a.encode b → ∃ n, n < 64 ∧ s = a.symbol n
  | [], h => absurd h (by simp [encode])
  | [x], h => by
    have hx := x.toNat_lt
    simp only [encode, List.mem_cons, List.not_mem_nil, or_false] at h
    rcases h with rfl | rfl
    · exact ⟨_, by omega, rfl⟩
    · exact ⟨_, Nat.mod_lt _ (by decide), rfl⟩
  | [x, y], h => by
    have hx := x.toNat_lt
    have hy := y.toNat_lt
    simp only [encode, List.mem_cons, List.not_mem_nil, or_false] at h
    rcases h with rfl | rfl | rfl
    · exact ⟨_, by omega, rfl⟩
    · exact ⟨_, Nat.mod_lt _ (by decide), rfl⟩
    · exact ⟨_, Nat.mod_lt _ (by decide), rfl⟩
  -- each symbol stands for six bits of the group, whichever it is
  | x :: y :: z :: rest, h => by
    have hx := x.toNat_lt
    have hy := y.toNat_lt
    have hz := z.toNat_lt
    simp only [encode, List.mem_cons] at h
    rcases h with rfl | rfl | rfl | rfl | h
    · exact ⟨_, by omega, rfl⟩
    · exact ⟨_, Nat.mod_lt _ (by decide), rfl⟩
    · exact ⟨_, Nat.mod_lt _ (by decide), rfl⟩
    · exact ⟨_, Nat.mod_lt _ (by decide), rfl⟩
    · exact exists_symbol_of_mem_encode a h

/-- The text is written in the 64 symbols. -/
def Over (a : Base64) (text : Bytes) : Prop := ∀ s ∈ text, ∃ n, n < 64 ∧ s = a.symbol n

/-- What is encoded is made of the alphabet and nothing else. -/
theorem over_encode (a : Base64) (b : Bytes) : a.Over (a.encode b) :=
  fun _ hs => exists_symbol_of_mem_encode a hs

/-- **The text of a byte sequence reads back.** -/
theorem Lawful.decode_encode (ha : a.Lawful) (b : Bytes) : a.decode (a.encode b) = .ok b := by
  cases hlast : (a.encode b).getLast? with
  | none =>
    rw [decode, hlast]
    cases b with
    | nil => rfl
    | cons x rest => exact absurd (List.getLast?_eq_none_iff.1 hlast) (encode_cons_ne_nil x rest)
  | some s =>
    obtain ⟨n, hn, rfl⟩ := exists_symbol_of_mem_encode a (List.mem_of_getLast? hlast)
    -- a last symbol of the alphabet is never reported as foreign
    have hknown : ¬ ((a.encode b).length % 4 = 1 ∧ a.symbol n ≠ padding
        ∧ a.value? (a.symbol n) = none) := by
      rw [ha.value?_symbol n hn]
      simp
    simp only [decode, hlast, if_neg hknown]
    exact ha.decodeQuads_encode b 0 (fun _ => rfl)

/-- Byte sequences with the same text are the same. -/
theorem Lawful.encode_injective (ha : a.Lawful) {b b' : Bytes} (h : a.encode b = a.encode b') :
    b = b' := by
  have hb := ha.decode_encode b
  rw [h, ha.decode_encode] at hb
  cases hb
  rfl

/-- Every byte takes eight bits and every symbol holds six, the last one maybe fewer. -/
theorem length_encode (a : Base64) : ∀ b : Bytes, (a.encode b).length = (8 * b.length + 5) / 6
  | [] => rfl
  | [x] => by simp only [encode, List.length_cons, List.length_nil]
  | [x, y] => by simp only [encode, List.length_cons, List.length_nil]
  | x :: y :: z :: rest => by
    have ih := length_encode a rest
    simp only [encode, List.length_cons, ih]
    omega

/-- What holds of all symbols of the alphabet holds of all bytes of a text over it. -/
theorem Over.forall {P : UInt8 → Prop} {text : Bytes} (h : a.Over text)
    (each : ∀ k, k < 64 → P (a.symbol k)) : ∀ s ∈ text, P s := by
  intro s hs
  obtain ⟨n, hn, rfl⟩ := h s hs
  exact each n hn

/-! ## The alphabet for URLs -/

/-- A text over the web alphabet is ASCII. -/
theorem Over.lt {text : Bytes} (h : url.Over text) {s : UInt8} (hs : s ∈ text) : s < 0x80 :=
  h.forall (P := (· < 0x80)) (by decide) s hs

/-- No dot is in the web alphabet, so that dots may stand between the segments of a token. -/
theorem Over.dot_not_mem {text : Bytes} (h : url.Over text) : (0x2E : UInt8) ∉ text := fun hdot =>
  h.forall (P := ((0x2E : UInt8) ≠ ·)) (by decide) _ hdot rfl

theorem lt_of_mem_url_encode {b : Bytes} {s : UInt8} (h : s ∈ url.encode b) : s < 0x80 :=
  (over_encode url b).lt h

/-- What is encoded for the web has no dot in it. -/
theorem dot_not_mem_url_encode (b : Bytes) : (0x2E : UInt8) ∉ url.encode b :=
  (over_encode url b).dot_not_mem

/-! ## The alphabet of password hashes -/

/-- In the alphabet of stored hashes each number has its own symbol. -/
theorem crypt_lawful : crypt.Lawful := ⟨by decide, by decide⟩

theorem Over.crypt_lt {text : Bytes} (h : crypt.Over text) : ∀ s ∈ text, s < 0x80 :=
  h.forall (by decide)

/-- No dollar sign is in the alphabet of stored hashes, where it stands between the parts. -/
theorem Over.dollar_not_mem {text : Bytes} (h : crypt.Over text) : (0x24 : UInt8) ∉ text :=
  fun hdollar => h.forall (P := ((0x24 : UInt8) ≠ ·)) (by decide) _ hdollar rfl

end TenantAuth.Base64

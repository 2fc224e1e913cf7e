import TenantAuth.Proofs.Base64
import TenantAuth.Proofs.Outcome

/-!
# Base64 has one spelling

Decoding accepts nothing but what encoding writes: `decode_eq_ok` is the converse of
`decode_encode`. No padding, no foreign symbol and no stray bit in the last symbol gets through, so
that a byte sequence has exactly one text.
-/
namespace TenantAuth.Base64

open Outcome

/-- Only the 64 symbols have values, and each has its place as its value. -/
structure Canonical (a : Base64) : Prop extends a.Lawful where
  lt_of_value? : ∀ {s : UInt8} {n : Nat}, a.value? s = some n → n < 64
  symbol_of_value? : ∀ {s : UInt8} {n : Nat}, a.value? s = some n → a.symbol n = s

/-- The web alphabet, without padding, leaves no two ways to write a byte sequence. -/
theorem url_canonical : url.Canonical := by
  have each : ∀ k, k < 256 → (url.value? (UInt8.ofNat k)).all
      (fun n => n < 64 && url.symbol n == UInt8.ofNat k) = true := by decide +kernel
  have hvalue : ∀ {s : UInt8} {n : Nat}, url.value? s = some n → n < 64 ∧ url.symbol n = s := by
    intro s n h
    have hs := each s.toNat s.toNat_lt
    rw [UInt8.ofNat_toNat, h] at hs
    simpa using hs
  exact ⟨url_lawful, fun h => (hvalue h).1, fun h => (hvalue h).2⟩

variable {a : Base64} {start : Nat} {text quad : Bytes} {b : Bytes}

theorem valueAt_eq_ok {offset n : Nat} {s : UInt8} :
    a.valueAt offset s = .ok n ↔ a.value? s = some n := by
  unfold valueAt
  cases a.value? s <;> simp

/-- Symbols without padding are those of the quad, with their values. -/
theorem lastSymbols_go_eq_ok {index : Nat} {symbols : List (UInt8 × Nat)}
    (h : lastSymbols.go a start index quad = .ok (symbols, 0)) :
    quad = symbols.map Prod.fst ∧ ∀ p ∈ symbols, a.value? p.1 = some p.2 := by
  induction quad generalizing index symbols with
  | nil =>
    cases h
    exact ⟨rfl, nofun⟩
  | cons s rest ih =>
    rw [lastSymbols.go] at h
    split at h
    · -- a padding character counts itself
      split at h <;> cases h
    · obtain ⟨v, hv, h⟩ := bind_eq_ok.1 h
      obtain ⟨⟨more, pads⟩, hmore, h⟩ := bind_eq_ok.1 h
      cases h
      obtain ⟨hquad, hvalues⟩ := ih hmore
      refine ⟨by rw [List.map_cons, ← hquad], ?_⟩
      intro p hp
      rcases List.mem_cons.1 hp with rfl | hp
      · exact valueAt_eq_ok.1 hv
      · exact hvalues p hp

/-- Symbols without padding are spelled by their values. -/
theorem Canonical.map_symbol (ha : a.Canonical) {symbols : List (UInt8 × Nat)}
    (h : a.lastSymbols start quad = .ok (symbols, 0)) :
    quad = (symbols.map Prod.snd).map a.symbol ∧ ∀ n ∈ symbols.map Prod.snd, n < 64 := by
  obtain ⟨rfl, hvalues⟩ := lastSymbols_go_eq_ok h
  constructor
  · rw [List.map_map]
    exact List.map_congr_left fun p hp => (ha.symbol_of_value? (hvalues p hp)).symm
  · intro n hn
    obtain ⟨p, hp, rfl⟩ := List.mem_map.1 hn
    exact ha.lt_of_value? (hvalues p hp)

/-- What the values of the last symbols can be, with the bytes that they make up. -/
inductive LastBytes : List Nat → Bytes → Prop where
  | none : LastBytes [] []
  | one {u v : Nat} (hrest : v % 16 = 0) : LastBytes [u, v] [UInt8.ofNat (u * 4 + v / 16)]
  | two {u v w : Nat} (hrest : w % 4 = 0) :
      LastBytes [u, v, w] [UInt8.ofNat (u * 4 + v / 16), UInt8.ofNat (v % 16 * 16 + w / 4)]
  | three {u v w x : Nat} (more : List Nat) :
      LastBytes (u :: v :: w :: x :: more)
        [UInt8.ofNat (u * 4 + v / 16), UInt8.ofNat (v % 16 * 16 + w / 4),
          UInt8.ofNat (w % 4 * 64 + x)]

/-- The last group is decoded from symbols that leave no bit over. -/
theorem decodeLast_eq_ok (h : a.decodeLast start quad = .ok b) :
    ∃ symbols, a.lastSymbols start quad = .ok (symbols, 0) ∧
      LastBytes (symbols.map Prod.snd) b := by
  obtain ⟨⟨symbols, pads⟩, hsymbols, h⟩ := bind_eq_ok.1 h
  rw [hsymbols]
  dsimp only at h
  -- how many symbols are in the group says how many bytes are left for it
  match symbols with
  | [] =>
    dsimp only at h
    split at h
    · next hnone =>
      cases h
      exact ⟨[], by rw [hnone.1], .none⟩
    · cases h
  | [_] => cases h
  | (_, u) :: (_, v) :: more =>
    simp only [throw_eq, guard_eq_ok, ne_eq, Decidable.not_not] at h
    obtain ⟨rfl, h⟩ := h
    refine ⟨_, rfl, ?_⟩
    match more with
    | [] =>
      simp only [guard_eq_ok, Decidable.not_not] at h
      obtain ⟨hrest, h⟩ := h
      cases h
      exact .one hrest
    | [(_, w)] =>
      simp only [guard_eq_ok, Decidable.not_not] at h
      obtain ⟨hrest, h⟩ := h
      cases h
      exact .two hrest
    | (_, w) :: (_, x) :: more =>
      cases h
      exact .three _

theorem toNat_ofNat_of_lt {n : Nat} (h : n < 256) : (UInt8.ofNat n).toNat = n := by
  rw [UInt8.toNat_ofNat']
  exact Nat.mod_eq_of_lt h

/-- Three bytes are spelled by the four values that they were made up from. -/
theorem quad_of_bytes {u v w x n : Nat} (hu : u < 64) (hv : v < 64) (hw : w < 64) (hx : x < 64)
    (hn : n = ((UInt8.ofNat (u * 4 + v / 16)).toNat * 256
      + (UInt8.ofNat (v % 16 * 16 + w / 4)).toNat) * 256 + (UInt8.ofNat (w % 4 * 64 + x)).toNat) :
    n / 262144 = u ∧ n / 4096 % 64 = v ∧ n / 64 % 64 = w ∧ n % 64 = x := by
  rw [toNat_ofNat_of_lt (by omega), toNat_ofNat_of_lt (by omega),
    toNat_ofNat_of_lt (by omega)] at hn
  omega

/-- The last quad is the text of its bytes. -/
theorem Canonical.encode_of_decodeLast (ha : a.Canonical) (hlength : quad.length ≤ 4)
    (h : a.decodeLast start quad = .ok b) : a.encode b = quad := by
  obtain ⟨symbols, hsymbols, hlast⟩ := decodeLast_eq_ok h
  obtain ⟨rfl, hvalues⟩ := ha.map_symbol hsymbols
  rw [List.length_map] at hlength
  generalize symbols.map Prod.snd = values at hlength hvalues hlast
  -- the numbers of the symbols give back the bytes, since no bit is left over
  cases hlast with
  | none => rfl
  | @one u v hrest =>
    have hu := hvalues u (by simp)
    have hv := hvalues v (by simp)
    have hbyte : (UInt8.ofNat (u * 4 + v / 16)).toNat = u * 4 + v / 16 :=
      toNat_ofNat_of_lt (by omega)
    have hfirst : (u * 4 + v / 16) * 16 / 64 = u := by omega
    have hsecond : (u * 4 + v / 16) * 16 % 64 = v := by omega
    simp only [encode, hbyte, hfirst, hsecond, List.map_cons, List.map_nil]
  | @two u v w hrest =>
    have hu := hvalues u (by simp)
    have hv := hvalues v (by simp)
    have hw := hvalues w (by simp)
    have hbyte : (UInt8.ofNat (u * 4 + v / 16)).toNat = u * 4 + v / 16 :=
      toNat_ofNat_of_lt (by omega)
    have hbyte' : (UInt8.ofNat (v % 16 * 16 + w / 4)).toNat = v % 16 * 16 + w / 4 :=
      toNat_ofNat_of_lt (by omega)
    obtain ⟨n, hn⟩ : ∃ n, n = ((u * 4 + v / 16) * 256 + (v % 16 * 16 + w / 4)) * 4 := ⟨_, rfl⟩
    have hfirst : n / 4096 = u := by omega
    have hsecond : n / 64 % 64 = v := by omega
    have hthird : n % 64 = w := by omega
    simp only [encode, hbyte, hbyte', ← hn, hfirst, hsecond, hthird, List.map_cons, List.map_nil]
  | @three u v w x more =>
    have hmore : more = [] := by
      simp only [List.length_cons] at hlength
      exact List.eq_nil_of_length_eq_zero (by omega)
    subst hmore
    obtain ⟨hfirst, hsecond, hthird, hfourth⟩ := quad_of_bytes (hvalues u (by simp))
      (hvalues v (by simp)) (hvalues w (by simp)) (hvalues x (by simp)) rfl
    simp only [encode, hfirst, hsecond, hthird, hfourth, List.map_cons, List.map_nil]

/-- Quad by quad, a text that reads back is the text of its bytes. -/
theorem Canonical.encode_of_decodeQuads (ha : a.Canonical)
    (h : a.decodeQuads start text = .ok b) : a.encode b = text := by
  fun_induction decodeQuads a start text generalizing b with
  | case1 start p q r s t rest ih =>
    obtain ⟨u, hu, h⟩ := bind_eq_ok.1 h
    obtain ⟨v, hv, h⟩ := bind_eq_ok.1 h
    obtain ⟨w, hw, h⟩ := bind_eq_ok.1 h
    obtain ⟨x, hx, h⟩ := bind_eq_ok.1 h
    obtain ⟨more, hmore, h⟩ := bind_eq_ok.1 h
    cases h
    rw [valueAt_eq_ok] at hu hv hw hx
    obtain ⟨hfirst, hsecond, hthird, hfourth⟩ := quad_of_bytes (ha.lt_of_value? hu)
      (ha.lt_of_value? hv) (ha.lt_of_value? hw) (ha.lt_of_value? hx) rfl
    simp only [encode, hfirst, hsecond, hthird, hfourth, ha.symbol_of_value? hu,
      ha.symbol_of_value? hv, ha.symbol_of_value? hw, ha.symbol_of_value? hx, ih hmore]
  | case2 start quad hshort =>
    -- five symbols or more would have been split
    have hlength : quad.length ≤ 4 := by
      rcases quad with _ | ⟨p, _ | ⟨q, _ | ⟨r, _ | ⟨s, _ | ⟨t, rest⟩⟩⟩⟩⟩
      case cons.cons.cons.cons.cons => exact absurd rfl (hshort p q r s t rest)
      all_goals simp
    exact ha.encode_of_decodeLast hlength h

/-- **A text reads back just when it is the one that encoding writes.** -/
theorem Canonical.decode_eq_ok (ha : a.Canonical) : a.decode text = .ok b ↔ text = a.encode b := by
  constructor
  · intro h
    unfold decode at h
    split at h
    · split at h
      · cases h
      -- the text is decoded group by group up to its last one
      · exact (ha.encode_of_decodeQuads h).symm
    · next hnil =>
      cases h
      exact List.getLast?_eq_none_iff.1 hnil
  · rintro rfl
    exact ha.decode_encode b

/-- A text that is decoded is made of the alphabet. -/
theorem Canonical.over_of_decode (ha : a.Canonical) (h : a.decode text = .ok b) : a.Over text := by
  rw [ha.decode_eq_ok.1 h]
  exact a.over_encode b

end TenantAuth.Base64

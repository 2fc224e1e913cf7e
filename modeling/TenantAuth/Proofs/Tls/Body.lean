import TenantAuth.Tls.Pem
import TenantAuth.Proofs.Base64
import TenantAuth.Proofs.Outcome

/-!
# Bodies of sections

What a body stands for, without regard to how it is decoded: `Means` goes through its symbols quad
by quad. A body is decoded in chunks of two quads, of which the last one waits for the end of the
body; `decodeBody_eq_ok` says that the chunks do not show. The base64 text of any bytes, with blanks
wherever they are put, is such a body (`means_padded`).
-/
namespace TenantAuth.Pem

open Outcome
open Pem.Symbol (innerBytes lastBytes finalBytes chunkBytes isSpace)

variable {ss : List Symbol} {bs : Bytes}

/-! ## What symbols stand for -/

/-- The bytes that symbols stand for: full quads, and at the end three bytes less one or two, whose
quad may be filled up with padding. -/
inductive Means : List Symbol → Bytes → Prop
  | nil : Means [] []
  | two (a b : Nat) {pads : List Symbol} (hpads : pads = [] ∨ pads = [.padding, .padding]) :
      Means (.bits a :: .bits b :: pads) [UInt8.ofNat ((a * 64 + b) / 16)]
  | three (a b c : Nat) {pads : List Symbol} (hpads : pads = [] ∨ pads = [.padding]) :
      Means (.bits a :: .bits b :: .bits c :: pads)
        [UInt8.ofNat (((a * 64 + b) * 64 + c) / 1024), UInt8.ofNat (((a * 64 + b) * 64 + c) / 4)]
  | quad (a b c d : Nat) {ss : List Symbol} {bs : Bytes} (hrest : Means ss bs) :
      Means (.bits a :: .bits b :: .bits c :: .bits d :: ss)
        (UInt8.ofNat ((((a * 64 + b) * 64 + c) * 64 + d) / 65536) ::
          UInt8.ofNat ((((a * 64 + b) * 64 + c) * 64 + d) / 256) ::
          UInt8.ofNat (((a * 64 + b) * 64 + c) * 64 + d) :: bs)

/-- The symbols of a body, one for each byte that is no blank. -/
def Spells (body : Bytes) (ss : List Symbol) : Prop :=
  (body.filter fun b => !isSpace b).map Symbol.ofByte? = ss.map some

theorem means_nil : Means [] bs ↔ bs = [] := by
  constructor
  · intro h
    cases h
    rfl
  · rintro rfl
    exact .nil

/-- Four symbols or fewer are decoded as what they stand for. -/
theorem lastBytes_eq_ok (hlength : ss.length ≤ 4) : lastBytes ss = .ok bs ↔ Means ss bs := by
  constructor
  · intro h
    unfold lastBytes at h
    split at h
    · cases h
      exact .nil
    · cases h
      exact .quad _ _ _ _ .nil
    · cases h
      exact .three _ _ _ (.inr rfl)
    · cases h
      exact .three _ _ _ (.inl rfl)
    · cases h
      exact .two _ _ (.inr rfl)
    · cases h
      exact .two _ _ (.inl rfl)
    · cases h
  · intro h
    cases h with
    | nil => rfl
    | two a b hpads => rcases hpads with rfl | rfl <;> rfl
    | three a b c hpads => rcases hpads with rfl | rfl <;> rfl
    | @quad a b c d ss bs hrest =>
      -- four symbols without padding leave no others
      have hnil : ss = [] := by
        apply List.eq_nil_of_length_eq_zero
        simp only [List.length_cons] at hlength
        omega
      subst hnil
      rw [means_nil.1 hrest]
      rfl

/-- A quad that others follow is a full one, and what follows is decoded after it. -/
theorem means_inner {quad : List Symbol} (hquad : quad.length = 4) (hss : ss ≠ []) :
    Means (quad ++ ss) bs ↔
      ∃ front more, innerBytes quad = .ok front ∧ Means ss more ∧ bs = front ++ more := by
  obtain ⟨x, y, z, w, rfl⟩ : ∃ x y z w, quad = [x, y, z, w] := by
    match quad, hquad with
    | [x, y, z, w], _ => exact ⟨x, y, z, w, rfl⟩
  unfold innerBytes
  constructor
  · intro h
    -- the end of a body is too short for five symbols
    cases h with
    | two a b hpads =>
      rcases hpads with hpads | hpads
      · cases hpads
      · cases hpads
        exact absurd rfl hss
    | three a b c hpads =>
      rcases hpads with hpads | hpads
      · cases hpads
      · cases hpads
        exact absurd rfl hss
    | quad a b c d hrest => exact ⟨_, _, rfl, hrest, rfl⟩
  · rintro ⟨front, more, hfront, hmore, rfl⟩
    rw [ite_error_eq_ok] at hfront
    obtain ⟨hpads, hfront⟩ := hfront
    rw [lastBytes_eq_ok (by simp)] at hfront
    cases hfront with
    | two a b hpads' =>
      rcases hpads' with hpads' | hpads'
      · cases hpads'
      · cases hpads'
        exact absurd rfl hpads
    | three a b c hpads' =>
      rcases hpads' with hpads' | hpads'
      · cases hpads'
      · cases hpads'
        exact absurd rfl hpads
    | quad a b c d hrest =>
      rw [means_nil.1 hrest]
      exact .quad _ _ _ _ hmore

/-! ## Decoding in chunks -/

/-- The last symbols, at most eight, are decoded as what they stand for. -/
theorem finalBytes_eq_ok (hlength : ss.length ≤ 8) : finalBytes ss = .ok bs ↔ Means ss bs := by
  unfold finalBytes
  by_cases hshort : ss.length ≤ 4
  · rw [if_pos hshort, lastBytes_eq_ok hshort]
  · rw [if_neg hshort]
    have hquad : (ss.take 4).length = 4 := by rw [List.length_take]; omega
    have hlast : (ss.drop 4).length ≤ 4 := by rw [List.length_drop]; omega
    have hne : ss.drop 4 ≠ [] := by
      rw [Ne, List.drop_eq_nil_iff]
      exact hshort
    -- more than four symbols are four and the last ones
    have hmeans : Means ss bs ↔ Means (ss.take 4 ++ ss.drop 4) bs := by rw [List.take_append_drop]
    rw [hmeans, means_inner hquad hne]
    simp only [bind_eq_ok, pure_eq, Except.ok.injEq, lastBytes_eq_ok hlast]
    constructor
    · rintro ⟨front, hfront, more, hmore, rfl⟩
      exact ⟨front, more, hfront, hmore, rfl⟩
    · rintro ⟨front, more, hfront, hmore, rfl⟩
      exact ⟨front, hfront, more, hmore, rfl⟩

/-- Eight symbols that others follow are two quads that others follow. -/
theorem means_chunk {chunk : List Symbol} (hchunk : chunk.length = 8) (hss : ss ≠ []) :
    Means (chunk ++ ss) bs ↔
      ∃ front more, chunkBytes chunk = .ok front ∧ Means ss more ∧ bs = front ++ more := by
  have hfirst : (chunk.take 4).length = 4 := by rw [List.length_take]; omega
  have hsecond : (chunk.drop 4).length = 4 := by rw [List.length_drop]; omega
  have hsplit : chunk ++ ss = chunk.take 4 ++ (chunk.drop 4 ++ ss) := by
    rw [← List.append_assoc, List.take_append_drop]
  have hne : chunk.drop 4 ++ ss ≠ [] := List.append_ne_nil_of_right_ne_nil _ hss
  -- padding in the chunk is padding in one of its quads
  have hpadding : chunk.contains .padding = true ↔
      (chunk.take 4).contains .padding = true ∨ (chunk.drop 4).contains .padding = true := by
    rw [← Bool.or_eq_true, ← List.contains_append, List.take_append_drop]
  rw [hsplit, means_inner hfirst hne]
  simp only [means_inner hsecond hss]
  unfold chunkBytes innerBytes
  simp only [ite_error_eq_ok, bind_eq_ok, pure_eq, Except.ok.injEq, hpadding, not_or]
  constructor
  · rintro ⟨front, -, ⟨hp, hfront⟩, ⟨front', more, ⟨hp', hfront'⟩, hmore, rfl⟩, rfl⟩
    exact ⟨front ++ front', more, ⟨⟨hp, hp'⟩, front, hfront, front', hfront', rfl⟩, hmore,
      (List.append_assoc ..).symm⟩
  · rintro ⟨-, more, ⟨⟨hp, hp'⟩, front, hfront, front', hfront', rfl⟩, hmore, rfl⟩
    exact ⟨front, front' ++ more, ⟨hp, hfront⟩, ⟨front', more, ⟨hp', hfront'⟩, hmore, rfl⟩,
      List.append_assoc ..⟩

/-! ## Decoding byte by byte -/

theorem spells_nil : Spells [] ss ↔ ss = [] := by
  show [] = ss.map some ↔ ss = []
  rw [eq_comm, List.map_eq_nil_iff]

theorem spells_space {b : UInt8} (hb : isSpace b = true) (body : Bytes) :
    Spells (b :: body) ss ↔ Spells body ss := by
  rw [Spells, List.filter_cons_of_neg (by simp [hb]), Spells]

theorem spells_cons {b : UInt8} (hb : isSpace b = false) (body : Bytes) :
    Spells (b :: body) ss ↔
      ∃ s rest, Symbol.ofByte? b = some s ∧ ss = s :: rest ∧ Spells body rest := by
  rw [Spells, List.filter_cons_of_pos (by simp [hb]), List.map_cons]
  constructor
  · intro h
    cases ss with
    | nil => cases h
    | cons s rest =>
      rw [List.map_cons, List.cons.injEq] at h
      exact ⟨s, rest, h.1, rfl, h.2⟩
  · rintro ⟨s, rest, hs, rfl, hrest⟩
    rw [List.map_cons, hs, hrest]

/-- What is decoded after pending symbols is what they stand for together with those of the body. -/
theorem decodeFrom_eq_ok (body : Bytes) :
    ∀ {pending : List Symbol} {bs : Bytes}, pending.length ≤ 8 →
    (decodeFrom pending body = .ok bs ↔ ∃ ss, Spells body ss ∧ Means (pending ++ ss) bs) := by
  induction body with
  | nil =>
    intro pending bs hpending
    rw [decodeFrom, finalBytes_eq_ok hpending]
    simp only [spells_nil, exists_eq_left, List.append_nil]
  | cons b rest ih =>
    intro pending bs hpending
    rw [decodeFrom]
    -- the induction is on the body; `pending` are the symbols not yet decoded
    by_cases hspace : isSpace b = true
    · rw [if_pos hspace, ih hpending]
      simp only [spells_space hspace]
    · rw [if_neg hspace]
      have hb : isSpace b = false := by simpa using hspace
      simp only [spells_cons hb]
      cases hs : Symbol.ofByte? b with
      | none => exact ⟨nofun, fun ⟨_, ⟨_, _, h, _⟩, _⟩ => nomatch h⟩
      | some s =>
        dsimp only
        by_cases hfull : pending.length = 8
        · -- the chunk is complete, and there is one more symbol: it is not the end
          rw [if_pos hfull]
          simp only [bind_eq_ok, pure_eq, Except.ok.injEq, @ih [s] _ (by simp)]
          constructor
          · rintro ⟨front, hfront, more, ⟨ss, hss, hmore⟩, rfl⟩
            exact ⟨s :: ss, ⟨s, ss, rfl, rfl, hss⟩,
              (means_chunk hfull (List.cons_ne_nil s ss)).2 ⟨front, more, hfront, hmore, rfl⟩⟩
          · rintro ⟨_, ⟨s', ss, hs', rfl, hss⟩, hmeans⟩
            cases hs'
            obtain ⟨front, more, hfront, hmore, rfl⟩ :=
              (means_chunk hfull (List.cons_ne_nil s ss)).1 hmeans
            exact ⟨front, hfront, more, ⟨ss, hss, hmore⟩, rfl⟩
        · rw [if_neg hfull, ih (by rw [List.length_append, List.length_singleton]; omega)]
          simp only [List.append_assoc, List.singleton_append]
          constructor
          · rintro ⟨ss, hss, hmeans⟩
            exact ⟨s :: ss, ⟨s, ss, rfl, rfl, hss⟩, hmeans⟩
          · rintro ⟨_, ⟨s', ss, hs', rfl, hss⟩, hmeans⟩
            cases hs'
            exact ⟨ss, hss, hmeans⟩

/-- **A body is decoded as what its symbols stand for,** and refused where they stand for
nothing. -/
theorem decodeBody_eq_ok {body : Bytes} :
    decodeBody body = .ok bs ↔ ∃ ss, Spells body ss ∧ Means ss bs := by
  exact @decodeFrom_eq_ok body [] bs (Nat.zero_le 8)

/-! ## The base64 text of bytes -/

/-- The base64 text of bytes, filled up with padding to full quads. -/
def padded (content : Bytes) : Bytes :=
  Base64.standard.encode content ++ List.replicate ((3 - content.length % 3) % 3) Base64.padding

theorem standard_lawful : Base64.standard.Lawful := ⟨by decide, by decide⟩

theorem ofByte?_symbol {n : Nat} (hn : n < 64) :
    Symbol.ofByte? (Base64.standard.symbol n) = some (.bits n) := by
  have hne : Base64.standard.symbol n ≠ 0x3D := standard_lawful.symbol_ne_padding n hn
  rw [Symbol.ofByte?, if_neg hne, standard_lawful.value?_symbol n hn]
  rfl

/-- The text of bytes is one of the texts that stand for them. -/
theorem means_padded : ∀ content : Bytes,
    ∃ ss, (padded content).map Symbol.ofByte? = ss.map some ∧ Means ss content
  | [] => ⟨[], rfl, .nil⟩
  | [x] => by
    have hx := x.toNat_lt
    refine ⟨[.bits (x.toNat * 16 / 64), .bits (x.toNat * 16 % 64), .padding, .padding], ?_, ?_⟩
    · simp only [padded, Base64.encode, List.map_append, List.map_cons, List.map_nil,
        ofByte?_symbol (n := x.toNat * 16 / 64) (by omega),
        ofByte?_symbol (n := x.toNat * 16 % 64) (by omega)]
      rfl
    · have hbyte : (x.toNat * 16 / 64 * 64 + x.toNat * 16 % 64) / 16 = x.toNat := by omega
      have hmeans := Means.two (x.toNat * 16 / 64) (x.toNat * 16 % 64) (.inr rfl)
      rwa [hbyte, UInt8.ofNat_toNat] at hmeans
  | [x, y] => by
    have hx := x.toNat_lt
    have hy := y.toNat_lt
    obtain ⟨n, hn⟩ : ∃ n, n = (x.toNat * 256 + y.toNat) * 4 := ⟨_, rfl⟩
    refine ⟨[.bits (n / 4096), .bits (n / 64 % 64), .bits (n % 64), .padding], ?_, ?_⟩
    · simp only [padded, Base64.encode, ← hn, List.map_append, List.map_cons, List.map_nil,
        ofByte?_symbol (n := n / 4096) (by omega), ofByte?_symbol (n := n / 64 % 64) (by omega),
        ofByte?_symbol (n := n % 64) (by omega)]
      rfl
    · have hvalue : (n / 4096 * 64 + n / 64 % 64) * 64 + n % 64 = n := by omega
      have hmeans := Means.three (n / 4096) (n / 64 % 64) (n % 64) (.inr rfl)
      have hfirst : UInt8.ofNat (n / 1024) = x := by
        rw [show n / 1024 = x.toNat by omega, UInt8.ofNat_toNat]
      have hsecond : UInt8.ofNat (n / 4) = y := by
        rw [show n / 4 = x.toNat * 256 + y.toNat by omega]
        apply UInt8.toNat_inj.1
        rw [UInt8.toNat_ofNat']
        omega
      rwa [hvalue, hfirst, hsecond] at hmeans
  | x :: y :: z :: rest => by
    have hx := x.toNat_lt
    have hy := y.toNat_lt
    have hz := z.toNat_lt
    obtain ⟨ss, hss, hrest⟩ := means_padded rest
    -- the number that the group of four symbols spells
    obtain ⟨n, hn⟩ : ∃ n, n = (x.toNat * 256 + y.toNat) * 256 + z.toNat := ⟨_, rfl⟩
    refine ⟨.bits (n / 262144) :: .bits (n / 4096 % 64) :: .bits (n / 64 % 64) ::
        .bits (n % 64) :: ss,
      ?_, ?_⟩
    · have hlength : (x :: y :: z :: rest).length % 3 = rest.length % 3 := by
        simp only [List.length_cons]
        omega
      have hfour : padded (x :: y :: z :: rest) = Base64.standard.symbol (n / 262144) ::
          Base64.standard.symbol (n / 4096 % 64) :: Base64.standard.symbol (n / 64 % 64) ::
          Base64.standard.symbol (n % 64) :: padded rest := by
        rw [padded, hlength, Base64.encode, ← hn]
        rfl
      rw [hfour]
      simp only [List.map_cons, hss, ofByte?_symbol (n := n / 262144) (by omega),
        ofByte?_symbol (n := n / 4096 % 64) (by omega),
        ofByte?_symbol (n := n / 64 % 64) (by omega),
        ofByte?_symbol (n := n % 64) (by omega)]
    · have hvalue : ((n / 262144 * 64 + n / 4096 % 64) * 64 + n / 64 % 64) * 64 + n % 64 = n := by
        omega
      have hmeans := Means.quad (n / 262144) (n / 4096 % 64) (n / 64 % 64) (n % 64) hrest
      have hbyte : ∀ {k : Nat} {b : UInt8}, k % 256 = b.toNat → UInt8.ofNat k = b := by
        intro k b hk
        apply UInt8.toNat_inj.1
        rw [UInt8.toNat_ofNat']
        exact hk
      rwa [hvalue, hbyte (b := x) (by omega), hbyte (b := y) (by omega), hbyte (b := z) (by omega)]
        at hmeans

end TenantAuth.Pem

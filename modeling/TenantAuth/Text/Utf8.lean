/-!
# Text and its bytes

Texts are `String`; what arrives from outside is a list of bytes. `bytes` and `ofBytes?` convert
between the two: `ofBytes?_bytes` says that nothing is lost, `eq_bytes_of_ofBytes?` that each text
has one byte form. `Before` is the order of byte forms, in which names and members are sorted.
-/
namespace TenantAuth

/-- A sequence of octets. -/
abbrev Bytes := List UInt8

namespace Text

/-- The UTF-8 form of a text. -/
def bytes (s : String) : Bytes := s.toUTF8.data.toList

/-- The text whose UTF-8 form is `b`, if there is one. -/
def ofBytes? (b : Bytes) : Option String := String.fromUTF8? ⟨b.toArray⟩

theorem ofBytes?_bytes (s : String) : ofBytes? (bytes s) = some s := by
  obtain ⟨b, h⟩ := s
  simp [ofBytes?, bytes, String.fromUTF8?, String.toUTF8, String.fromUTF8, h]

theorem eq_bytes_of_ofBytes? {b : Bytes} {s : String} (h : ofBytes? b = some s) :
    b = bytes s := by
  unfold ofBytes? String.fromUTF8? at h
  split at h
  · cases h; rfl
  · cases h

theorem bytes_injective {s t : String} (h : bytes s = bytes t) : s = t := by
  have := ofBytes?_bytes s
  rw [h, ofBytes?_bytes] at this
  exact (Option.some.inj this).symm

/-- The text of ASCII bytes, a character for each byte. -/
def ofAscii (b : Bytes) : String := String.ofList (b.map fun x => Char.ofNat x.toNat)

/-- `s` stands before `t`: its bytes come first in lexicographic order. -/
def Before (s t : String) : Prop := bytes s < bytes t

instance (s t : String) : Decidable (Before s t) := inferInstanceAs (Decidable (bytes s < bytes t))

theorem Before.irrefl (s : String) : ¬ Before s s := List.lt_irrefl _

theorem Before.trans {s t u : String} (h : Before s t) (k : Before t u) : Before s u :=
  List.lt_trans h k

theorem Before.total {s t : String} (h : ¬ Before s t) (n : s ≠ t) : Before t s :=
  Decidable.byContradiction fun k =>
    n (bytes_injective (List.le_antisymm (List.not_lt.1 k) (List.not_lt.1 h)))

end Text

end TenantAuth

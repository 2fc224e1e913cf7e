import TenantAuth.Text.Utf8

/-!
# DER

Elements of a tag, a length and a content, as certificates and keys are built of. Lengths are
definite, as short as they can be, and of at most two bytes.
-/
namespace TenantAuth.Der

/-- A reader of elements, with faults of its own. -/
abbrev Reader (ε α : Type) := StateT Bytes (Except ε) α

/-- The tags of elements. -/
inductive Tag where
  | boolean
  | integer
  | bitString
  | octetString
  | objectId
  | sequence
  | primitive (n : UInt8)
  | constructed (n : UInt8)
  deriving DecidableEq

/-- The byte of a tag. -/
def Tag.byte : Tag → UInt8
  | .boolean => 0x01
  | .integer => 0x02
  | .bitString => 0x03
  | .octetString => 0x04
  | .objectId => 0x06
  | .sequence => 0x30
  | .primitive n => 0x80 + n
  | .constructed n => 0xA0 + n

/-- A length and what follows it. -/
def length? : Bytes → Option (Nat × Bytes)
  | [] => none
  | n :: rest =>
    if n < 0x80 then some (n.toNat, rest)
    else if n = 0x81 then
      match rest with
      | a :: rest => if a < 0x80 then none else some (a.toNat, rest)
      | [] => none
    else if n = 0x82 then
      match rest with
      | 0 :: _ :: _ => none
      | a :: b :: rest => some (a.toNat * 256 + b.toNat, rest)
      | _ => none
    else none

/-- The tag byte and the content of the first element, and what follows it. -/
def element? : Bytes → Option (UInt8 × Bytes × Bytes)
  | [] => none
  | tag :: rest =>
    if tag &&& 0x1F = 0x1F then none
    else
      match length? rest with
      | none => none
      | some (n, rest) => if rest.length < n then none else some (tag, rest.take n, rest.drop n)

theorem length_of_length? {b rest : Bytes} {n : Nat} (h : length? b = some (n, rest)) :
    rest.length < b.length := by
  unfold length? at h
  split at h
  · simp at h
  · split at h
    · grind
    · split at h
      · split at h <;> grind
      · split at h
        · split at h <;> grind
        · simp at h

theorem length_of_element? {b content rest : Bytes} {tag : UInt8}
    (h : element? b = some (tag, content, rest)) : rest.length < b.length := by
  unfold element? at h
  split at h
  · simp at h
  · split at h
    · simp at h
    · split at h
      · simp at h
      · rename_i hl
        have := length_of_length? hl
        split at h <;> simp at h
        grind

/-- The content of an element with a tag. -/
def element (fault : ε) (tag : Tag) : Reader ε Bytes := fun b =>
  match element? b with
  | some (t, content, rest) => if t = tag.byte then .ok (content, rest) else .error fault
  | none => .error fault

/-- The next element has a tag. -/
def next (tag : Tag) : Reader ε Bool := fun b => .ok (b.head? = some tag.byte, b)

/-- Nothing is left. -/
def atEnd : Reader ε Bool := fun b => .ok (b.isEmpty, b)

/-- Reads all of a content. -/
def whole (fault : ε) (r : Reader ε α) (content : Bytes) : Except ε α :=
  match r content with
  | .ok (a, rest) => if rest.isEmpty then .ok a else .error fault
  | .error e => .error e

/-- Reads all of the content of an element. -/
def nested (fault : ε) (tag : Tag) (r : Reader ε α) : Reader ε α := do
  let content ← element fault tag
  match whole fault r content with
  | .ok a => return a
  | .error e => throw e

/-- The bytes of an integer that is not negative, without the zero that keeps it so. -/
def magnitude (fault : ε) : Reader ε Bytes := do
  match ← element fault .integer with
  | [0] => return [0]
  | 0 :: b :: rest => if b < 0x80 then throw fault else return b :: rest
  | b :: rest => if b < 0x80 then return b :: rest else throw fault
  | [] => throw fault

/-- The number that bytes stand for, the greatest first. -/
def number (bs : Bytes) : Nat := bs.foldl (fun n b => n * 256 + b.toNat) 0

/-- An integer that is not negative. -/
def natural (fault : ε) : Reader ε Nat := do return number (← magnitude fault)

/-- An integer from 0 to 255. -/
def small (fault : ε) : Reader ε Nat := do
  match ← magnitude fault with
  | [b] => return b.toNat
  | _ => throw fault

/-- The bytes of a bit string under a tag, of which all bits are used. -/
def bits (fault : ε) (tag : Tag) : Reader ε Bytes := do
  match ← element fault tag with
  | 0 :: content => return content
  | _ => throw fault

/-- Goes through the elements with a tag that make up a content. -/
def foldElements (fault : ε) (tag : Tag) (step : σ → Bytes → Except ε σ) (s : σ) (content : Bytes) :
    Except ε σ :=
  if content.isEmpty then .ok s
  else
    match _h : element? content with
    | none => .error fault
    | some (t, inner, rest) =>
      if t = tag.byte then
        match step s inner with
        | .error e => .error e
        | .ok s => foldElements fault tag step s rest
      else .error fault
  termination_by content.length
  decreasing_by exact length_of_element? (by assumption)

/-! ## Writing -/

/-- The bytes of a length up to two bytes. -/
def lengthBytes (n : Nat) : Bytes :=
  if n < 0x80 then [UInt8.ofNat n]
  else if n < 0x100 then [0x81, UInt8.ofNat n]
  else [0x82, UInt8.ofNat (n / 256), UInt8.ofNat n]

/-- An element with a tag and a content. -/
def write (tag : Tag) (content : Bytes) : Bytes := tag.byte :: lengthBytes content.length ++ content

/-- The element of a positive integer, given by its bytes. -/
def writeMagnitude (bs : Bytes) : Bytes :=
  write .integer (match bs with | b :: _ => if b < 0x80 then bs else 0 :: bs | [] => [0])

end TenantAuth.Der

import TenantAuth.Proofs.Json.Records

/-!
# Reading back free-form data

Free-form data whose numbers are integers reads back from each of its texts, in whatever layout it
is `Written`, if it does not nest deeper than the reader goes: what is read is the data with the
members of its objects in the order of their names (`Written.reads`). Of data that has been read
this is the data itself, so its compact text reads back as the data (`reads_value`).
-/
namespace TenantAuth.Json

/-! ## Data -/

/-- The members stand in the order of their names, each name once. -/
def Ascending {α : Type} (members : List (String × α)) : Prop :=
  members.Pairwise fun m m' => Text.Before m.1 m'.1

/-- The members of every object in the data ascend. -/
inductive Sorted : Json → Prop
  | null : Sorted .null
  | bool (b : Bool) : Sorted (.bool b)
  | int (n : Int) : Sorted (.int n)
  | float (x : Binary64) : Sorted (.float x)
  | str (s : String) : Sorted (.str s)
  | arr {items : List Json} (hitems : ∀ v ∈ items, Sorted v) : Sorted (.arr items)
  | obj {members : List (String × Json)} (hnames : Ascending members)
      (hmembers : ∀ m ∈ members, Sorted m.2) : Sorted (.obj members)

/-- Every number in the data is an integer of one of the 64-bit ranges. -/
inductive Integral : Json → Prop
  | null : Integral .null
  | bool (b : Bool) : Integral (.bool b)
  | int {n : Int} (hmin : int64Min ≤ n) (hmax : n ≤ uint64Max) : Integral (.int n)
  | str (s : String) : Integral (.str s)
  | arr {items : List Json} (hitems : ∀ v ∈ items, Integral v) : Integral (.arr items)
  | obj {members : List (String × Json)} (hmembers : ∀ m ∈ members, Integral m.2) :
      Integral (.obj members)

mutual

/-- How many lists and objects stand inside each other, the value itself counted. -/
def nesting : Json → Nat
  | .arr items => itemsNesting items + 1
  | .obj members => membersNesting members + 1
  | _ => 0

/-- The deepest nesting among items. -/
def itemsNesting : List Json → Nat
  | [] => 0
  | v :: rest => max v.nesting (itemsNesting rest)

/-- The deepest nesting among the values of members. -/
def membersNesting : List (String × Json) → Nat
  | [] => 0
  | (_, v) :: rest => max v.nesting (membersNesting rest)

end

mutual

/-- The data with the members of every object in the order of their names, the last of each name. -/
def sorted : Json → Json
  | .arr items => .arr (sortedItems items)
  | .obj members => .obj (sortMembers (sortedMembers members))
  | v => v

/-- The items, each of them sorted. -/
def sortedItems : List Json → List Json
  | [] => []
  | v :: rest => v.sorted :: sortedItems rest

/-- The members as they stand, each value sorted. -/
def sortedMembers : List (String × Json) → List (String × Json)
  | [] => []
  | (name, v) :: rest => (name, v.sorted) :: sortedMembers rest

end

theorem sortedItems_eq_map (items : List Json) : sortedItems items = items.map sorted := by
  induction items with
  | nil => rfl
  | cons v rest ih => rw [sortedItems, ih, List.map_cons]

theorem sortedMembers_eq_map (members : List (String × Json)) :
    sortedMembers members = members.map fun m => (m.1, m.2.sorted) := by
  induction members with
  | nil => rfl
  | cons m rest ih => rw [sortedMembers, ih, List.map_cons]

/-- A list is no deeper than the deepest of its items. -/
theorem itemsNesting_le {items : List Json} {n : Nat} :
    itemsNesting items ≤ n ↔ ∀ v ∈ items, v.nesting ≤ n := by
  induction items with
  | nil => simp [itemsNesting]
  | cons v rest ih => rw [itemsNesting, Nat.max_le, ih, List.forall_mem_cons]

/-- An object is no deeper than the deepest of its values. -/
theorem membersNesting_le {members : List (String × Json)} {n : Nat} :
    membersNesting members ≤ n ↔ ∀ m ∈ members, m.2.nesting ≤ n := by
  induction members with
  | nil => simp [membersNesting]
  | cons m rest ih => rw [membersNesting, Nat.max_le, ih, List.forall_mem_cons]

/-! ## Members in order -/

/-- A member whose name comes after all others is put at the end. -/
theorem setMember_last {α : Type} {name : String} {ms : List (String × α)}
    (h : ∀ m ∈ ms, Text.Before m.1 name) (v : α) : setMember name v ms = ms ++ [(name, v)] := by
  induction ms with
  | nil => rfl
  | cons m rest ih =>
    have hfirst := h m List.mem_cons_self
    have hafter : ¬ Text.Before name m.1 := fun hbefore =>
      Text.Before.irrefl _ (hfirst.trans hbefore)
    have hne : name ≠ m.1 := by
      intro heq
      rw [← heq] at hfirst
      exact Text.Before.irrefl _ hfirst
    rw [setMember, if_neg hafter, if_neg hne, ih fun x hx => h x (List.mem_cons_of_mem m hx)]
    rfl

/-- Members in order stay as they are. -/
theorem Ascending.sortMembers_eq {α : Type} {ms : List (String × α)} (h : Ascending ms) :
    sortMembers ms = ms := by
  -- the induction is on the members that are left to be set after those `before` them
  have hfold : ∀ before : List (String × α), Ascending (before ++ ms) →
      ms.foldl (fun sorted m => setMember m.1 m.2 sorted) before = before ++ ms := by
    clear h
    induction ms with
    | nil => exact fun before _ => (List.append_nil before).symm
    | cons m rest ih =>
      intro before hbefore
      have hlast : ∀ x ∈ before, Text.Before x.1 m.1 := fun x hx =>
        (List.pairwise_append.1 hbefore).2.2 x hx m List.mem_cons_self
      have hsplit : before ++ m :: rest = (before ++ [m]) ++ rest := by simp
      rw [List.foldl_cons, setMember_last hlast, hsplit]
      exact ih _ (hsplit ▸ hbefore)
  exact hfold [] h

/-- After one member is set there are this one and some of those before. -/
theorem of_mem_setMember {α : Type} {name : String} {v : α} {ms : List (String × α)}
    {m : String × α} (h : m ∈ setMember name v ms) : m = (name, v) ∨ m ∈ ms := by
  induction ms with
  | nil => exact .inl (List.mem_singleton.1 h)
  | cons x rest ih =>
    rw [setMember] at h
    -- the three branches of `setMember`: before the first member, in its place, and further on
    split at h
    · exact List.mem_cons.1 h
    split at h
    · exact (List.mem_cons.1 h).imp_right (List.mem_cons_of_mem x)
    · rcases List.mem_cons.1 h with rfl | h
      · exact .inr List.mem_cons_self
      · exact (ih h).imp_right (List.mem_cons_of_mem x)

/-- Members stay in order when one is set. -/
theorem Ascending.setMember {α : Type} {ms : List (String × α)} (h : Ascending ms) (name : String)
    (v : α) : Ascending (setMember name v ms) := by
  induction ms with
  | nil => exact List.pairwise_singleton ..
  | cons x rest ih =>
    obtain ⟨hfirst, hrest⟩ := List.pairwise_cons.1 h
    rw [Json.setMember]
    split
    · next hbefore =>
      refine List.pairwise_cons.2 ⟨fun m hm => ?_, h⟩
      rcases List.mem_cons.1 hm with rfl | hm
      · exact hbefore
      · exact hbefore.trans (hfirst m hm)
    split
    · next heq =>
      subst heq
      exact List.pairwise_cons.2 ⟨hfirst, hrest⟩
    · next hbefore hne =>
      refine List.pairwise_cons.2 ⟨fun m hm => ?_, ih hrest⟩
      -- what comes after the first member is the new one or was there before
      rcases of_mem_setMember hm with rfl | hm
      · exact Text.Before.total hbefore hne
      · exact hfirst m hm

/-- A member that is set is found under its name, and no other member is touched. -/
theorem lookup_setMember {α : Type} (name key : String) (v : α) (ms : List (String × α)) :
    (setMember name v ms).lookup key = if key = name then some v else ms.lookup key := by
  induction ms with
  | nil =>
    rw [setMember, List.lookup_cons, List.lookup_nil]
    split <;> simp_all
  | cons m rest ih =>
    rw [setMember]
    -- the member is put before the first one, in its place, or further on
    split
    · rw [List.lookup_cons]
      split <;> simp_all
    split
    · next hsame =>
      subst hsame
      rw [List.lookup_cons, List.lookup_cons]
      split <;> simp_all
    · next hother =>
      rw [List.lookup_cons, ih, List.lookup_cons]
      split
      · next hkey =>
        have hne : key ≠ name := fun heq => hother (heq.symm.trans (beq_iff_eq.1 hkey))
        rw [if_neg hne]
      · rfl

/-- Of several members with one name the last is found. -/
theorem lookup_foldl_setMember {α : Type} (ms sorted : List (String × α)) (key : String) :
    (ms.foldl (fun sorted m => setMember m.1 m.2 sorted) sorted).lookup key =
      (ms.reverse.lookup key).or (sorted.lookup key) := by
  induction ms generalizing sorted with
  | nil => rfl
  | cons m rest ih =>
    rw [List.foldl_cons, ih, lookup_setMember, List.reverse_cons, List.lookup_append,
      Option.or_assoc, List.lookup_cons, List.lookup_nil]
    -- the members that are set later win over this one, and this one over those before
    by_cases hkey : key = m.1
    · simp [hkey]
    · have hne : (key == m.1) = false := beq_eq_false_iff_ne.2 hkey
      rw [if_neg hkey, hne, Option.none_or]

/-- Under each name the last of the members is found. -/
theorem lookup_sortMembers {α : Type} (ms : List (String × α)) (key : String) :
    (sortMembers ms).lookup key = ms.reverse.lookup key := by
  rw [sortMembers, lookup_foldl_setMember, List.lookup_nil, Option.or_none]

/-- Sorted members are in order. -/
theorem ascending_sortMembers {α : Type} (ms : List (String × α)) : Ascending (sortMembers ms) := by
  have hfold : ∀ sorted : List (String × α), Ascending sorted →
      Ascending (ms.foldl (fun sorted m => setMember m.1 m.2 sorted) sorted) := by
    induction ms with
    | nil => exact fun _ h => h
    | cons m rest ih => exact fun _ h => ih _ (h.setMember m.1 m.2)
  exact hfold [] .nil

/-- Members in order are found under their names. -/
theorem Ascending.lookup_eq_some_iff {α : Type} {ms : List (String × α)} (h : Ascending ms)
    {name : String} {v : α} : ms.lookup name = some v ↔ (name, v) ∈ ms := by
  induction ms with
  | nil => simp
  | cons m rest ih =>
    obtain ⟨key, value⟩ := m
    obtain ⟨hfirst, hrest⟩ := List.pairwise_cons.1 h
    rw [List.lookup_cons]
    by_cases hname : name = key
    · subst hname
      -- no further member has the name
      have hlast : (name, v) ∉ rest := fun hmem => Text.Before.irrefl name (hfirst (name, v) hmem)
      simp [hlast, eq_comm]
    · have hne : (name == key) = false := beq_eq_false_iff_ne.2 hname
      rw [hne, ih hrest]
      simp [hname]

/-- Members in order are there once each. -/
theorem Ascending.nodup {α : Type} {ms : List (String × α)} (h : Ascending ms) : ms.Nodup := by
  refine List.Pairwise.imp (fun {m m'} hbefore heq => ?_) h
  rw [heq] at hbefore
  exact Text.Before.irrefl _ hbefore

/-- **Members in order are determined by what is found under each name.** -/
theorem Ascending.ext {α : Type} {ms ms' : List (String × α)} (h : Ascending ms)
    (h' : Ascending ms') (hsame : ∀ name v, ms.lookup name = some v ↔ ms'.lookup name = some v) :
    ms = ms' := by
  have hperm : ms.Perm ms' := (List.perm_ext_iff_of_nodup h.nodup h'.nodup).2 fun m => by
    rw [← h.lookup_eq_some_iff, ← h'.lookup_eq_some_iff]
    exact hsame m.1 m.2
  refine hperm.eq_of_pairwise (fun m m' _ _ hbefore hafter => ?_) h h'
  exact absurd (hbefore.trans hafter) (Text.Before.irrefl _)

/-- Data whose members are in order is sorted already. -/
theorem Sorted.sorted_eq {v : Json} (h : v.Sorted) : v.sorted = v := by
  induction h with
  | null => rfl
  | bool b => rfl
  | int n => rfl
  | float x => rfl
  | str s => rfl
  -- the items and members are sorted by induction, and the members keep their order
  | @arr items hitems ih =>
    have hsame : items.map sorted = items := (List.map_congr_left ih).trans (List.map_id' items)
    rw [sorted, sortedItems_eq_map, hsame]
  | @obj members hnames hmembers ih =>
    have hsame : members.map (fun m => (m.1, m.2.sorted)) = members :=
      (List.map_congr_left fun m hm => congrArg (m.1, ·) (ih m hm)).trans (List.map_id' members)
    rw [sorted, sortedMembers_eq_map, hsame, hnames.sortMembers_eq]

namespace Reader

variable {α β : Type}

/-- Reads a member of a map and sets it. -/
def putMember (value : Reader α) (ms : List (String × α)) (name : String) :
    Reader (List (String × α)) := do
  let v ← memberValue name value
  return setMember name v ms

/-- Written members are set one after the other. -/
theorem folds_putMember {value : Reader α} {text : β → Bytes} {a : β → α} {ms : List (String × β)}
    (hvalue : ∀ m ∈ ms, Reads value (text m.2) (a m.2)) (before : List (String × α)) :
    Folds (putMember value) before (ms.map fun m => (m.1, text m.2))
      ((ms.map fun m => (m.1, a m.2)).foldl (fun ms m => setMember m.1 m.2 ms) before) := by
  induction ms generalizing before with
  | nil => exact .nil _
  | cons m rest ih =>
    have hmember : Reads (putMember value before m.1) (0x3A :: text m.2)
        (setMember m.1 (a m.2) before) :=
      ((hvalue m List.mem_cons_self).memberValue m.1).bind fun _ => rfl
    exact .cons hmember (ih (fun x hx => hvalue x (List.mem_cons_of_mem _ hx)) _)

/-- A map reads back from its brace on, in whatever layout, with its names in order. -/
theorem reads_putMembers {gap last : Bytes} (hgap : Blanks gap) (hlast : Blanks last)
    {value : Reader α} (text : β → Bytes) (a : β → α) {ms : List (String × β)}
    (hvalue : ∀ m ∈ ms, Reads value (text m.2) (a m.2)) :
    Reads (do advance; closedBy (fields (putMember value) []) endObject)
      (laidOut 0x7B 0x7D gap last (ms.map fun m => memberText (m.1, text m.2)))
      (sortMembers (ms.map fun m => (m.1, a m.2))) := by
  have hbraced : Reads (do advance; closedBy (fields (putMember value) [] >>= pure) endObject)
      (laidOut 0x7B 0x7D gap last ((ms.map fun m => (m.1, text m.2)).map memberText))
      (sortMembers (ms.map fun m => (m.1, a m.2))) :=
    reads_braced hgap hlast (folds_putMember hvalue []) fun _ => rfl
  rwa [bind_pure, List.map_map] at hbraced

/-- **The text of a table reads back.** -/
theorem reads_table {value : Reader α} (text : α → Bytes) {ms : List (String × α)}
    (hvalue : ∀ m ∈ ms, Reads value (text m.2) m.2) (hnames : Ascending ms) :
    Reads (table value) (objectText (ms.map fun m => (m.1, text m.2))) ms := by
  refine Reads.located (Reads.token rfl rfl ?_)
  dsimp only
  have hread : Reads (do advance; closedBy (fields (putMember value) []) endObject)
      (laidOut 0x7B 0x7D [] [] (ms.map fun m => memberText (m.1, text m.2)))
      (sortMembers (ms.map fun m => (m.1, m.2))) := reads_putMembers .nil .nil text id hvalue
  rw [List.map_id', hnames.sortMembers_eq] at hread
  rw [if_pos rfl, objectText_eq_laidOut, List.map_map]
  exact hread

/-! ## Values -/

/-- The texts of data: in any layout, with numbers that are integers of one of the 64-bit ranges. -/
inductive Written : Json → Bytes → Prop
  | null : Written .null nullText
  | bool (b : Bool) : Written (.bool b) (boolText b)
  | int {n : Int} (hmin : int64Min ≤ n) (hmax : n ≤ uint64Max) : Written (.int n) (intText n)
  | str (s : String) : Written (.str s) (Json.stringText s)
  | arr {items : List Json} {gap last : Bytes} {text : Json → Bytes} (hgap : Blanks gap)
      (hlast : Blanks last) (hitems : ∀ v ∈ items, Written v (text v)) :
      Written (.arr items) (laidOut 0x5B 0x5D gap last (items.map text))
  | obj {members : List (String × Json)} {gap between last : Bytes} {text : Json → Bytes}
      (hgap : Blanks gap) (hbetween : Blanks between) (hlast : Blanks last)
      (hmembers : ∀ m ∈ members, Written m.2 (text m.2)) :
      Written (.obj members)
        (laidOut 0x7B 0x7D gap last (members.map fun m => memberText (m.1, between ++ text m.2)))

/-- The compact text is one of the texts. -/
theorem written_text {v : Json} (h : v.Integral) : Written v v.text := by
  induction h with
  | null => exact .null
  | bool b =>
    rw [Json.text]
    exact .bool b
  | int hmin hmax =>
    rw [Json.text]
    exact .int hmin hmax
  | str s =>
    rw [Json.text]
    exact .str s
  -- the compact layout has no blanks anywhere
  | @arr items hitems ih =>
    rw [Json.text, itemTexts_eq_map, arrayText_eq_laidOut]
    exact .arr .nil .nil ih
  | @obj members hmembers ih =>
    rw [Json.text, memberTexts_eq_map, objectText_eq_laidOut, List.map_map]
    exact .obj .nil .nil .nil ih

/-- Each text of a value starts with a byte that no reader of a list takes for its end. -/
theorem Written.starts {v : Json} {t : Bytes} (h : Written v t) : Starts t := by
  cases h with
  | null => exact ⟨0x6E, [0x75, 0x6C, 0x6C], rfl, rfl, by decide⟩
  | bool b =>
    cases b with
    | true => exact ⟨0x74, [0x72, 0x75, 0x65], rfl, rfl, by decide⟩
    | false => exact ⟨0x66, [0x61, 0x6C, 0x73, 0x65], rfl, rfl, by decide⟩
  | @int n hmin hmax =>
    cases n with
    -- a number starts with its first digit or with its sign
    | ofNat n =>
      obtain ⟨d, ds, hds, hd⟩ := exists_digit_ofNat n
      exact ⟨d, ds, hds, isBlank_of_isDigit hd, ne_of_isDigit hd rfl⟩
    | negSucc n => exact ⟨0x2D, Text.Decimal.ofNat (n + 1), rfl, rfl, by decide⟩
  | str s => exact starts_stringText s
  | arr => exact ⟨0x5B, _, rfl, rfl, by decide⟩
  | obj => exact ⟨0x7B, _, rfl, rfl, by decide⟩

/-- As a free-form value, an integer is read back exactly. -/
theorem reads_value_int {n : Int} (hmin : int64Min ≤ n) (hmax : n ≤ uint64Max) (depth : Nat) :
    Reads (value (depth + 1)) (intText n) (.int n) := by
  unfold int64Min at hmin
  unfold uint64Max at hmax
  cases n with
  | ofNat n =>
    have hlt : n < 0x10000000000000000 := by
      have : (n : Int) ≤ 0xFFFFFFFFFFFFFFFF := hmax
      omega
    exact reads_value_ofNat hlt depth
  -- after the sign the number is read as a positive one and negated
  | negSucc n =>
    have htext : intText (.negSucc n) = 0x2D :: Text.Decimal.ofNat (n + 1) := rfl
    rw [htext, value, valueWith]
    refine Reads.token rfl rfl ?_
    dsimp only
    rw [if_neg (by decide), if_neg (by decide), if_neg (by decide), if_pos rfl]
    intro t o ht
    rw [List.cons_append, bind_ok (advance_cons _ _ o),
      bind_ok (number_true_ofNat (Nat.succ_pos n) (by omega) ht (o + 1)), List.length_cons,
      Nat.add_assoc, Nat.add_comm 1]
    rfl

/-- **Free-form data reads back from each of its texts,** with its members in order. -/
theorem Written.reads {v : Json} {t : Bytes} (h : Written v t) {depth : Nat}
    (hdepth : v.nesting ≤ depth) : Reads (value (depth + 1)) t v.sorted := by
  -- the induction is on the text: what a list or an object holds is read with one level less
  induction h generalizing depth with
  | null =>
    rw [value, valueWith]
    refine Reads.token rfl rfl ?_
    dsimp only
    rw [if_pos rfl]
    exact reads_word 0x6E _ _
  | bool b =>
    rw [value, valueWith]
    cases b with
    | true =>
      refine Reads.token rfl rfl ?_
      dsimp only
      rw [if_neg (by decide), if_pos rfl]
      exact reads_word 0x74 _ _
    | false =>
      refine Reads.token rfl rfl ?_
      dsimp only
      rw [if_neg (by decide), if_neg (by decide), if_pos rfl]
      exact reads_word 0x66 _ _
  | int hmin hmax => exact reads_value_int hmin hmax depth
  | str s =>
    rw [value, valueWith]
    refine Reads.token rfl rfl ?_
    dsimp only
    rw [if_neg (by decide), if_neg (by decide), if_neg (by decide), if_neg (by decide),
      if_neg (by decide), if_pos rfl, ← bind_assoc]
    exact (reads_quoted s).bind fun _ => rfl
  | @arr items gap last text hgap hlast hitems ih =>
    rw [nesting] at hdepth
    -- a list counts as one level, so that at least one more is allowed inside
    obtain ⟨n, rfl⟩ := Nat.exists_eq_succ_of_ne_zero (Nat.ne_zero_of_lt hdepth)
    have hread : ∀ v ∈ items, Reads (value (n + 1)) (text v) v.sorted := fun v hv =>
      ih v hv (itemsNesting_le.1 (Nat.le_of_succ_le_succ hdepth) v hv)
    rw [value, valueWith, sorted, sortedItems_eq_map]
    refine Reads.token rfl rfl ?_
    dsimp only
    rw [if_neg (by decide), if_neg (by decide), if_neg (by decide), if_neg (by decide),
      if_neg (by decide), if_neg (by decide), if_pos rfl, if_neg (Nat.succ_ne_zero n), ← bind_assoc]
    have hstarts : ∀ v ∈ items, Starts (text v) := fun v hv => (hitems v hv).starts
    exact (reads_bracketed hgap hlast items hread hstarts).bind fun _ => rfl
  | @obj members gap between last text hgap hbetween hlast hmembers ih =>
    rw [nesting] at hdepth
    obtain ⟨n, rfl⟩ := Nat.exists_eq_succ_of_ne_zero (Nat.ne_zero_of_lt hdepth)
    have hread : ∀ m ∈ members, Reads (value (n + 1)) (between ++ text m.2) m.2.sorted := by
      intro m hm
      have hvalue := ih m hm (membersNesting_le.1 (Nat.le_of_succ_le_succ hdepth) m hm)
      rw [value, valueWith] at hvalue ⊢
      exact hvalue.gap hbetween
    rw [value, valueWith, sorted, sortedMembers_eq_map]
    refine Reads.token rfl rfl ?_
    dsimp only
    rw [if_neg (by decide), if_neg (by decide), if_neg (by decide), if_neg (by decide),
      if_neg (by decide), if_neg (by decide), if_neg (by decide), if_pos rfl,
      if_neg (Nat.succ_ne_zero n), ← bind_assoc]
    exact (reads_putMembers hgap hlast (fun v => between ++ text v) sorted hread).bind fun _ => rfl

/-- **Free-form data reads back.** -/
theorem reads_value {v : Json} (hsorted : v.Sorted) (hintegral : v.Integral) {depth : Nat}
    (hdepth : v.nesting ≤ depth) : Reads (value (depth + 1)) v.text v := by
  have hread := (written_text hintegral).reads hdepth
  rwa [hsorted.sorted_eq] at hread

end Reader

/-- **A text stands for the data it was written for,** with its members in order. -/
theorem parse_of_written {v : Json} {t : Bytes} (h : Reader.Written v t)
    (hdepth : v.nesting < Reader.maxDepth) : parse t = .ok v.sorted :=
  (h.reads (Nat.le_pred_of_lt hdepth)).whole

end TenantAuth.Json

import TenantAuth.Text.Blank

/-!
# Trimming

What trimming a list at both ends keeps.
-/
namespace TenantAuth.Text

variable {α β : Type} {p q : α → Bool} {cs : List α} {x : α}

theorem dropWhile_congr (h : ∀ c ∈ cs, p c = q c) : cs.dropWhile p = cs.dropWhile q := by
  induction cs with
  | nil => rfl
  | cons c rest ih =>
    rw [List.dropWhile_cons, List.dropWhile_cons, h c List.mem_cons_self,
      ih fun d hd => h d (List.mem_cons_of_mem c hd)]

/-- Trimming only asks about the elements that are there. -/
theorem trimList_congr (h : ∀ c ∈ cs, p c = q c) : trimList p cs = trimList q cs := by
  have hinner : ∀ c ∈ (cs.dropWhile q).reverse, p c = q c := fun c hc =>
    h c ((List.dropWhile_sublist q).mem (List.mem_reverse.1 hc))
  rw [trimList, trimList, dropWhile_congr h, dropWhile_congr hinner]

theorem trimList_map (f : α → β) (p : β → Bool) (cs : List α) :
    trimList p (cs.map f) = (trimList (p ∘ f) cs).map f := by
  rw [trimList, trimList, List.dropWhile_map, ← List.map_reverse, List.dropWhile_map,
    List.map_reverse]

theorem mem_dropWhile_or (h : x ∈ cs) : x ∈ cs.dropWhile p ∨ p x = true := by
  rw [← List.takeWhile_append_dropWhile (p := p) (l := cs)] at h
  rcases List.mem_append.1 h with h | h
  · exact .inr (List.all_eq_true.1 List.all_takeWhile x h)
  · exact .inl h

/-- What is trimmed away satisfies the condition. -/
theorem mem_trimList_or (h : x ∈ cs) : x ∈ trimList p cs ∨ p x = true := by
  rcases mem_dropWhile_or h with h | h
  · rcases mem_dropWhile_or (List.mem_reverse.2 h) with h | h
    · exact .inl (List.mem_reverse.2 h)
    · exact .inr h
  · exact .inr h

theorem mem_of_mem_trimList (h : x ∈ trimList p cs) : x ∈ cs := by
  have hinner := (List.dropWhile_sublist p).mem (List.mem_reverse.1 h)
  exact (List.dropWhile_sublist p).mem (List.mem_reverse.1 hinner)

end TenantAuth.Text

import TenantAuth.Service.Application

/-!
# Plain paths

A route whose path has no braces is for that one path, and no other pattern that the path fits is
more specific (`not_moreSpecific`). So a request for the path is answered among the routes that are
written the same way (`routesAt_of_mem`), whatever other routes an application has.
-/
namespace TenantAuth

namespace PathPattern

variable {bs cs : Bytes} {q : PathPattern}

/-- The bytes have no braces. -/
def Plain (bs : Bytes) : Prop := ∀ b ∈ bs, b ≠ 0x7B ∧ b ≠ 0x7D

/-- A plain path is a pattern of its own bytes. -/
theorem ofBytes_of_plain (h : Plain bs) : ofBytes bs = bs.map .literal := by
  induction bs with
  | nil => rw [ofBytes, List.map_nil]
  | cons b rest ih =>
    obtain ⟨hopen, hclose⟩ := h b List.mem_cons_self
    have hrest := ih fun c hc => h c (List.mem_cons_of_mem b hc)
    rw [ofBytes, if_neg hopen, if_neg hclose, hrest, List.map_cons]

theorem pieceOf_ne_literal (name : Bytes) (b : UInt8) : pieceOf name ≠ .literal b := by
  unfold pieceOf
  split <;> exact nofun

/-- Only the path itself denotes the pattern of its bytes. -/
theorem eq_of_ofBytes (h : Plain bs) (heq : ofBytes cs = bs.map .literal) : cs = bs := by
  induction cs generalizing bs with
  | nil =>
    rw [ofBytes] at heq
    exact (List.map_eq_nil_iff.1 heq.symm).symm
  | cons c rest ih =>
    rw [ofBytes] at heq
    cases bs with
    | nil =>
      split at heq
      · split at heq <;> cases heq
      · split at heq <;> cases heq
    | cons b more =>
      obtain ⟨hopen, hclose⟩ := h b List.mem_cons_self
      rw [List.map_cons] at heq
      -- braces stand for a brace or for no single byte, and `b` is no brace
      split at heq
      · split at heq
        · exact absurd (PathPiece.literal.inj (List.cons.inj heq).1).symm hopen
        · exact absurd (List.cons.inj heq).1 (pieceOf_ne_literal _ b)
      · split at heq
        · exact absurd (PathPiece.literal.inj (List.cons.inj heq).1).symm hclose
        · obtain ⟨hhead, htail⟩ := List.cons.inj heq
          cases hhead
          rw [ih (fun x hx => h x (List.mem_cons_of_mem _ hx)) htail]

/-- Bytes fit the pattern of themselves. -/
theorem fits_literals (bs : Bytes) : fits (bs.map .literal) bs = true := by
  induction bs with
  | nil => rfl
  | cons b rest ih => simp [fits, ih]

/-- Nothing that a path fits is more specific than the path itself. -/
theorem not_moreSpecific (h : fits q bs = true) : moreSpecific q (bs.map .literal) = false := by
  -- a path without parameters is the most specific of all that fit it
  induction bs generalizing q with
  | nil =>
    cases q with
    | nil => rfl
    | cons piece rest => cases piece <;> simp [fits] at h
  | cons b rest ih =>
    cases q with
    | nil => rfl
    | cons piece pieces =>
      cases piece with
      | literal c =>
        simp only [fits, Bool.and_eq_true, decide_eq_true_eq] at h
        exact ih h.2
      | segment => rfl
      | remainder => rfl

/-- What a path fits and is no less specific than the path is the path itself. -/
theorem eq_literals (h : fits q bs = true) (hnot : moreSpecific (bs.map .literal) q = false) :
    q = bs.map .literal := by
  -- what fits a path and is as specific has no parameters either
  induction bs generalizing q with
  | nil =>
    cases q with
    | nil => rfl
    | cons piece rest => cases piece <;> simp [fits] at h
  | cons b rest ih =>
    cases q with
    | nil => cases h
    | cons piece pieces =>
      cases piece with
      | literal c =>
        simp only [fits, Bool.and_eq_true, decide_eq_true_eq] at h
        rw [h.1, ih h.2 hnot, List.map_cons]
      | segment => cases hnot
      | remainder => cases hnot

end PathPattern

namespace Route

variable {a b route : Route} {path : String}

/-- A route with a plain path takes requests for this path. -/
theorem fits_self (hplain : PathPattern.Plain (Text.bytes path)) (h : route.path = path) :
    route.fits path = true := by
  rw [fits, h, PathPattern.ofText, PathPattern.ofBytes_of_plain hplain]
  exact PathPattern.fits_literals _

/-- The better one of two routes that fit does fit. -/
theorem best_fits (ha : a.fits path = true) (hb : b.fits path = true) :
    (best a b).fits path = true := by
  unfold best
  split
  · exact hb
  · exact ha

/-- Of two routes that a path fits, the one written like the path is the better one. -/
theorem best_path (hplain : PathPattern.Plain (Text.bytes path)) (ha : a.fits path = true)
    (hb : b.fits path = true) (h : a.path = path ∨ b.path = path) : (best a b).path = path := by
  have hliteral : PathPattern.ofText path = (Text.bytes path).map .literal :=
    PathPattern.ofBytes_of_plain hplain
  unfold best
  -- the path is that of one of the two routes, and it wins in either place
  rcases h with h | h
  · rw [h, hliteral, PathPattern.not_moreSpecific hb]
    exact h
  · rw [h, hliteral]
    split
    · exact h
    · next hnot =>
      have hpattern := PathPattern.eq_literals ha (Bool.eq_false_iff.2 hnot)
      exact Text.bytes_injective (PathPattern.eq_of_ofBytes hplain hpattern)

/-- A route with the path itself comes before all that only fit it. -/
theorem foldl_best_path (hplain : PathPattern.Plain (Text.bytes path)) {others : List Route}
    (hroute : route.fits path = true) (hothers : ∀ o ∈ others, o.fits path = true)
    (h : route.path = path ∨ ∃ o ∈ others, o.path = path) :
    (others.foldl best route).path = path := by
  induction others generalizing route with
  | nil => simpa using h
  | cons o rest ih =>
    have ho := hothers o List.mem_cons_self
    have hrest : ∀ x ∈ rest, x.fits path = true := fun x hx => hothers x (List.mem_cons_of_mem o hx)
    refine ih (best_fits hroute ho) hrest ?_
    rcases h with h | ⟨x, hx, h⟩
    · exact .inl (best_path hplain hroute ho (.inl h))
    · rcases List.mem_cons.1 hx with rfl | hx
      · exact .inl (best_path hplain hroute ho (.inr h))
      · exact .inr ⟨x, hx, h⟩

end Route

namespace Application

variable {app : Application} {env : Env} {route : Route} {r : Request} {w : World}

/-- A request for a plain path that some route is written like is for the routes written like it. -/
theorem routesAt_of_mem (hplain : PathPattern.Plain (Text.bytes route.path))
    (h : route ∈ app.routes) :
    app.routesAt route.path = app.routes.filter (·.path = route.path) := by
  have hfitting : route ∈ app.routes.filter (·.fits route.path) :=
    List.mem_filter.2 ⟨h, Route.fits_self hplain rfl⟩
  unfold routesAt
  cases hfits : app.routes.filter (·.fits route.path) with
  | nil =>
    rw [hfits] at hfitting
    cases hfitting
  | cons first others =>
    rw [hfits] at hfitting
    have hall : ∀ o ∈ first :: others, o.fits route.path = true := by
      intro o ho
      rw [← hfits] at ho
      exact (List.mem_filter.1 ho).2
    -- the best of all routes that fit has the path itself
    have hbest : (others.foldl Route.best first).path = route.path := by
      refine Route.foldl_best_path hplain (hall first List.mem_cons_self)
        (fun o ho => hall o (List.mem_cons_of_mem first ho)) ?_
      rcases List.mem_cons.1 hfitting with rfl | hmem
      · exact .inl rfl
      · exact .inr ⟨route, hmem, rfl⟩
    simp only [hbest]

/-- No method at a path has two routes; routes that clash cannot be put together. -/
def Unambiguous (app : Application) : Prop :=
  ∀ a ∈ app.routes, ∀ b ∈ app.routes, a.path = b.path →
    ∀ method ∈ a.handler.methods.names, method ∈ b.handler.methods.names → a = b

/-- A request is answered by the one route that is written for its path and its method. -/
theorem dispatch_of_mem (happ : app.Unambiguous) (hroute : route ∈ app.routes)
    (hplain : PathPattern.Plain (Text.bytes route.path)) (hpath : Target.path r.target = route.path)
    (hmethod : r.method ∈ route.handler.methods.names) :
    app.dispatch env r w
      = (trimmed r.method (route.service env r w).1, (route.service env r w).2) := by
  have hrouted : route ∈ app.routes.filter (·.path = route.path) :=
    List.mem_filter.2 ⟨hroute, decide_eq_true rfl⟩
  -- no two routes of a path have a method in common, so the first that fits is this one
  have hfound : (app.routes.filter (·.path = route.path)).find?
      (fun o => r.method ∈ o.handler.methods.names) = some route := by
    cases hfind : (app.routes.filter (·.path = route.path)).find?
        (fun o => r.method ∈ o.handler.methods.names) with
    | none =>
      have hnone := List.find?_eq_none.1 hfind route hrouted
      exact absurd (decide_eq_true hmethod) hnone
    | some other =>
      have hother := List.mem_filter.1 (List.mem_of_find?_eq_some hfind)
      have hnamed : r.method ∈ other.handler.methods.names := by
        simpa using List.find?_some hfind
      rw [happ other hother.1 route hroute (of_decide_eq_true hother.2) r.method hnamed hmethod]
  have hanswer : app.dispatch env r = answer env (app.routes.filter (·.path = route.path)) r := by
    unfold dispatch
    rw [hpath, routesAt_of_mem hplain hroute]
    cases hroutes : app.routes.filter (·.path = route.path) with
    | nil =>
      rw [hroutes] at hrouted
      cases hrouted
    | cons first others => rfl
  rw [hanswer]
  unfold answer
  rw [hfound]
  rfl

end Application

end TenantAuth

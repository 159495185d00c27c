import RequestRouting.Proofs.PathTrie.Acceptance
import RequestRouting.Proofs.Router.Alike

/-!
# One registration more

A registration is accepted if its pattern is read and no route of its method is a rival of it. A
lookup that found a route finds the same one after it, or the new route if this matches the path.
-/

set_option autoImplicit false

namespace RequestRouting

/-- Whether a request with the method may be led to the route. -/
def RouteEntry.MayAnswer (e : RouteEntry) (method : Method) : Prop :=
  e.method = method ∨ method = .head ∧ e.method = .get

namespace Router

variable {r s t : Router} {history : History RouteEntry}

theorem registerWith_ok_iff (r : Router) (method : Method) (pattern : String)
    (middleware handlers : List Handler) :
    (r.registerWith method pattern middleware handlers).1 = .ok () ↔ ∃ previous,
      ((r.trie method).insert pattern (r.newEntry method pattern middleware handlers)).1 =
        .ok previous := by
  rw [registerWith]
  rcases (r.trie method).insert pattern (r.newEntry method pattern middleware handlers) with
    ⟨e | previous, t⟩ <;> simp

theorem Follows.accepts_iff (h : r.Follows history) (method : Method) (pattern : String)
    (middleware handlers : List Handler) :
    (r.registerWith method pattern middleware handlers).1 = .ok () ↔
      (∃ parts, Pattern.parse pattern = .ok parts) ∧ ∀ e ∈ history.routes, e.method = method →
        ¬ Pattern.Rivals (pathParts e.pattern) (pathParts pattern) := by
  have hparts : ∀ x ∈ history, pathParts x.value.pattern = x.raws := by
    intro x hx
    rw [h.patterns x hx, x.raws_eq]
  rw [registerWith_ok_iff, (h.tries method).insert_ok_iff]
  refine and_congr_right fun _ => ?_
  constructor
  · intro hfree e he hmethod
    obtain ⟨x, hx, rfl⟩ := List.mem_map.1 he
    rw [hparts x hx]
    exact hfree x (History.mem_ofMethod.2 ⟨hx, hmethod⟩)
  · intro hfree x hx
    obtain ⟨hmem, hmethod⟩ := History.mem_ofMethod.1 hx
    have hnot := hfree x.value (List.mem_map_of_mem hmem) hmethod
    rwa [hparts x hmem] at hnot

theorem resolve_eq_found_iff {method : Method} {path : String} {route : RouteMatch} :
    r.resolve method path = .found route ↔ r.search method path = some route ∨
      (r.search method path = none ∧ (method = .head ∧ r.headFallback = true) ∧
        r.search .get path = some route) := by
  unfold resolve
  cases hown : r.search method path with
  | some found => simp
  | none =>
    by_cases hfallback : method = .head ∧ r.headFallback = true
    · obtain ⟨rfl, hflag⟩ := hfallback
      cases hget : r.search .get path with
      | some found => simp [hflag]
      | none =>
        simp only [hflag, beq_self_eq_true, Bool.and_true, if_true, Option.orElse_eq_orElse,
          Option.orElse_none]
        split <;> simp
    · have hflag : (r.headFallback && method == .head) = false := by
        rw [← Bool.not_eq_true, Bool.and_eq_true, beq_iff_eq]
        exact fun hboth => hfallback ⟨hboth.2, hboth.1⟩
      simp only [hflag, Bool.false_eq_true, if_false, Option.orElse_eq_orElse, Option.orElse_none,
        hfallback, false_and, and_false, or_false, reduceCtorEq]
      split <;> simp

/-- All that is found in `r` is found in `s` as well, or else one of the routes added since. -/
def Retains (r s : Router) (added : List RouteEntry) : Prop :=
  ∀ method path route, r.resolve method path = .found route →
    ∃ route', s.resolve method path = .found route' ∧ (route' = route ∨
      route'.entry ∈ added ∧ route'.entry.MayAnswer method ∧
        Pattern.Matches route'.entry.pattern path)

theorem Retains.of_resolve (h : ∀ method path, s.resolve method path = r.resolve method path)
    (added : List RouteEntry) : r.Retains s added :=
  fun method path route hroute => ⟨route, (h method path).trans hroute, .inl rfl⟩

theorem Retains.trans {added more : List RouteEntry} (h : r.Retains s added)
    (h' : s.Retains t more) : r.Retains t (added ++ more) := by
  intro method path route hroute
  obtain ⟨middle, hmiddle, hfirst⟩ := h method path route hroute
  obtain ⟨last, hlast, hsecond⟩ := h' method path middle hmiddle
  refine ⟨last, hlast, ?_⟩
  rcases hsecond with rfl | ⟨hmem, hnew⟩
  · rcases hfirst with rfl | ⟨hmem, hnew⟩
    · exact .inl rfl
    · exact .inr ⟨List.mem_append_left _ hmem, hnew⟩
  · exact .inr ⟨List.mem_append_right _ hmem, hnew⟩

theorem Follows.search_cases (h : r.Follows history) {method : Method} {pattern : String}
    {middleware handlers : List Handler}
    (haccepted : (r.registerWith method pattern middleware handlers).1 = .ok ()) (m : Method)
    (path : String) :
    (r.registerWith method pattern middleware handlers).2.search m path = r.search m path ∨
      m = method ∧ Pattern.Matches pattern path ∧ ∃ params,
        (r.registerWith method pattern middleware handlers).2.search m path =
          some ⟨r.newEntry method pattern middleware handlers, params⟩ := by
  rcases PathTrie.insert_cases (r.trie method) pattern
    (r.newEntry method pattern middleware handlers) with
    ⟨e, hinsert, -⟩ | ⟨x, rfl, hvalue, -, -, hinsert⟩
  · rw [Router.registerWith, hinsert] at haccepted
    cases haccepted
  · rw [Router.registerWith, hinsert, search, search, trie, trie_putTrie]
    by_cases hm : m = method
    · subst hm
      rw [if_pos rfl]
      rcases PathTrie.search_add_cases (h.tries m).represents x path with
        hsame | ⟨hcovers, node, hfound, -⟩
      · exact .inl (by rw [hsame])
      · refine .inr ⟨rfl, x.matches_iff.2 hcovers, x.params (pathParts path), ?_⟩
        rw [hfound, Option.map_some, hvalue]
    · rw [if_neg hm]
      exact .inl rfl

theorem registerWith_headFallback (r : Router) (method : Method) (pattern : String)
    (middleware handlers : List Handler) :
    (r.registerWith method pattern middleware handlers).2.headFallback = r.headFallback := by
  rw [registerWith]
  split <;> rfl

theorem Follows.retains_accepted (h : r.Follows history) {method : Method} {pattern : String}
    {middleware handlers : List Handler}
    (haccepted : (r.registerWith method pattern middleware handlers).1 = .ok ()) :
    r.Retains (r.registerWith method pattern middleware handlers).2
      [r.newEntry method pattern middleware handlers] := by
  intro m path route hroute
  have hflag := r.registerWith_headFallback method pattern middleware handlers
  have hown := h.search_cases haccepted m path
  have hget := h.search_cases haccepted .get path
  simp only [resolve_eq_found_iff, hflag] at hroute ⊢
  rcases hroute with hroute | ⟨hnone, hhead, hroute⟩
  · rcases hown with hsame | ⟨rfl, hmatches, params, hnew⟩
    · exact ⟨route, .inl (hsame.trans hroute), .inl rfl⟩
    · exact ⟨_, .inl hnew, .inr ⟨List.mem_singleton_self _, .inl rfl, hmatches⟩⟩
  · rcases hown with hsame | ⟨rfl, hmatches, params, hnew⟩
    · rw [hsame, hnone]
      rcases hget with hsame | ⟨rfl, hmatches, params, hnew⟩
      · exact ⟨route, .inr ⟨rfl, hhead, hsame.trans hroute⟩, .inl rfl⟩
      · exact ⟨_, .inr ⟨rfl, hhead, hnew⟩,
          .inr ⟨List.mem_singleton_self _, .inr ⟨hhead.1, rfl⟩, hmatches⟩⟩
    · exact ⟨_, .inl hnew, .inr ⟨List.mem_singleton_self _, .inl rfl, hmatches⟩⟩

theorem Follows.retains_registerWith (h : r.Follows history) (method : Method) (pattern : String)
    (middleware handlers : List Handler) :
    r.Retains (r.registerWith method pattern middleware handlers).2
      (record [] (r.newEntry method pattern middleware handlers)
        (r.registerWith method pattern middleware handlers).1) := by
  cases hresult : (r.registerWith method pattern middleware handlers).1 with
  | error e => exact .of_resolve (alike_of_refused h.keyed hresult).resolve _
  | ok done => exact h.retains_accepted hresult

end Router

end RequestRouting

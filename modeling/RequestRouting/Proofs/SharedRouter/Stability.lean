import RequestRouting.Proofs.SharedRouter.Revision

/-!
# Stable routes

A route that a shared router leads to does not disappear while routes are only added. A later route
takes its place if it matches the path, and nothing else does.
-/

set_option autoImplicit false

namespace RequestRouting

def Router.Built (r : Router) : Prop := ∃ steps, r = ({} : Router).run steps

theorem Router.Follows.run {r : Router} {history : History RouteEntry} (h : r.Follows history)
    (steps : List RouterStep) : ∃ history', (r.run steps).Follows history' := by
  induction steps generalizing r history with
  | nil => exact ⟨history, h⟩
  | cons s rest ih =>
    cases s with
    | configure config => exact ih (h.configure config)
    | use middleware => exact ih (h.use middleware)
    | register method pattern middleware handlers =>
      obtain ⟨history', hfollows, -⟩ := h.registerWith method pattern middleware handlers
      exact ih hfollows

theorem Router.Built.follows {r : Router} (h : r.Built) : ∃ history, r.Follows history := by
  obtain ⟨steps, rfl⟩ := h
  exact new_follows.run steps

namespace SharedRouter

/-- The states of shared routers, whatever was done to them. -/
inductive Reached : SharedRouter → Prop where
  | new {table : Router} (h : table.Built) : Reached (.new table)
  | withConfig {table : Router} (h : table.Built) (config : RuntimeConfig) :
      Reached (.withConfig table config)
  | step {s : SharedRouter} (h : Reached s) (last : SharedStep)
      (htable : ∀ table, last = .replace table → table.Built) : Reached (s.step last)

def registered (s : SharedRouter) : SharedGrowth → List RouteEntry
  | .register method pattern handler =>
    Router.record [] (s.load.newEntry method pattern [] [handler])
      (s.register method pattern handler).1
  | .update revision =>
    match (s.update revision.run).1 with
    | .ok () => revision.registered s.load
    | .error _ => []
  | .load => []
  | .resolve _ _ => []

def grown (s : SharedRouter) : List SharedGrowth → SharedRouter
  | [] => s
  | growth :: rest => (s.grow growth).grown rest

def registeredIn (s : SharedRouter) : List SharedGrowth → List RouteEntry
  | [] => []
  | growth :: rest => s.registered growth ++ (s.grow growth).registeredIn rest

theorem update_follows {ε : Type} {s : SharedRouter} {history : History RouteEntry}
    (h : s.load.Follows history) (revision : Revision ε) :
    ∃ history', (s.update revision.run).2.load.Follows history' := by
  rcases s.update_cases revision.run with ⟨-, hnext⟩ | ⟨e, -, hnext⟩
  · rw [hnext]
    exact revision.follows h
  · rw [hnext]
    exact ⟨history, h⟩

theorem grow_follows {s : SharedRouter} {history : History RouteEntry}
    (h : s.load.Follows history) (growth : SharedGrowth) :
    ∃ history', (s.grow growth).load.Follows history' := by
  cases growth with
  | register method pattern handler =>
    rw [grow, register_eq_update]
    exact update_follows h _
  | update revision => exact update_follows h revision
  | load => exact ⟨history, h⟩
  | resolve method path => exact ⟨history, h⟩

theorem Reached.follows {s : SharedRouter} (h : s.Reached) :
    ∃ history, s.load.Follows history := by
  induction h with
  | new hbuilt => exact hbuilt.follows
  | withConfig hbuilt config =>
    obtain ⟨history, hfollows⟩ := hbuilt.follows
    exact ⟨history, hfollows.configure config⟩
  | @step s hs last htable ih =>
    obtain ⟨history, hfollows⟩ := ih
    cases last with
    | grow growth => exact grow_follows hfollows growth
    | configure config => exact ⟨history, hfollows.configure config⟩
    | serve config => exact ⟨history, hfollows.configure config⟩
    | replace table =>
      obtain ⟨history', hnext⟩ := (htable table rfl).follows
      rw [SharedRouter.step, replace, load]
      cases s.config with
      | none => exact ⟨history', hnext⟩
      | some config => exact ⟨history', hnext.configure config⟩

theorem update_retains {ε : Type} {s : SharedRouter} {history : History RouteEntry}
    (h : s.load.Follows history) (revision : Revision ε) :
    s.load.Retains (s.update revision.run).2.load (s.registered (.update revision)) := by
  rw [registered]
  rcases s.update_cases revision.run with ⟨-, hnext⟩ | ⟨e, -, hnext⟩
  · rw [hnext]
    exact revision.retains h
  · rw [hnext]
    exact .of_resolve (fun _ _ => rfl) _

theorem grow_retains {s : SharedRouter} {history : History RouteEntry}
    (h : s.load.Follows history) (growth : SharedGrowth) :
    s.load.Retains (s.grow growth).load (s.registered growth) := by
  cases growth with
  | register method pattern handler =>
    rw [grow, registered, register_eq_update]
    rcases s.update_cases (Revision.register method pattern [] [handler] .finish).run with
      ⟨haccepted, hnext⟩ | ⟨e, -, hnext⟩
    · rw [hnext]
      exact h.retains_accepted haccepted
    · rw [hnext]
      exact .of_resolve (fun _ _ => rfl) _
  | update revision => exact update_retains h revision
  | load => exact .of_resolve (fun _ _ => rfl) _
  | resolve method path => exact .of_resolve (fun _ _ => rfl) _

theorem grown_retains {s : SharedRouter} {history : History RouteEntry}
    (h : s.load.Follows history) (later : List SharedGrowth) :
    s.load.Retains (s.grown later).load (s.registeredIn later) := by
  induction later generalizing s history with
  | nil => exact .of_resolve (fun _ _ => rfl) _
  | cons growth rest ih =>
    obtain ⟨history', hfollows⟩ := grow_follows h growth
    exact (grow_retains h growth).trans (ih hfollows)

/-- A route that was found once is found again after any additions, or one of the routes added in
between that match the path. It is the same if there are no such routes. -/
theorem resolve_stays {s : SharedRouter} (hs : s.Reached) {method : Method} {path : String}
    {route : RouteMatch} (hroute : s.resolve method path = .found route)
    (later : List SharedGrowth) :
    ∃ route', (s.grown later).resolve method path = .found route' ∧
      (route'.entry = route.entry ∨ (route'.entry ∈ s.registeredIn later ∧
        route'.entry.MayAnswer method ∧ Pattern.Matches route'.entry.pattern path)) ∧
      ((∀ e ∈ s.registeredIn later, e.MayAnswer method → ¬ Pattern.Matches e.pattern path) →
        route' = route) := by
  obtain ⟨history, hfollows⟩ := hs.follows
  obtain ⟨route', hroute', hcases⟩ := grown_retains hfollows later method path route hroute
  refine ⟨route', hroute', hcases.imp (congrArg RouteMatch.entry) id, fun hnone => ?_⟩
  rcases hcases with hsame | ⟨hmem, hanswers, hmatches⟩
  · exact hsame
  · exact absurd hmatches (hnone _ hmem hanswers)

theorem resolve_stays_of_fallback :
    let s := ((SharedRouter.new {}).register .get "/items/:id" .tracing).2
    let failing : Revision String :=
      .register .head "/items/:key" [] [.tracing] fun _ => .finish (.error "full")
    let adding : Revision String :=
      .use .tracing (.register .head "/items/7" [] [.tracing] fun _ => .finish (.ok ()))
    let later : List SharedGrowth :=
      [.register .head "/items/\x7b" .tracing, .update failing, .update adding]
    ∃ route, s.resolve .head "/items/7" = .found route ∧ route.entry.pattern = "/items/:id" ∧
      (s.registeredIn later).map (·.pattern) = ["/items/7"] ∧
      ∃ route', (s.grown later).resolve .head "/items/7" = .found route' ∧
        (route'.entry = route.entry ∨ (route'.entry ∈ s.registeredIn later ∧
          route'.entry.MayAnswer .head ∧ Pattern.Matches route'.entry.pattern "/items/7")) ∧
        ((∀ e ∈ s.registeredIn later, e.MayAnswer .head →
          ¬ Pattern.Matches e.pattern "/items/7") → route' = route) := by
  intro s failing adding later
  have hreached : s.Reached :=
    (Reached.new ⟨[], rfl⟩).step (.grow (.register .get "/items/:id" .tracing)) nofun
  exact ⟨_, rfl, rfl, rfl, resolve_stays hreached rfl later⟩

end SharedRouter

end RequestRouting

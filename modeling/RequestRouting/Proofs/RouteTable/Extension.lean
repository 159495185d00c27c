import RequestRouting.Proofs.RouteTable.Construction
import RequestRouting.Proofs.SharedRouter.Settings

/-!
# Routers extended by tables

A table brings middleware and routes to a router, and leaves its settings as they are.
-/

set_option autoImplicit false

namespace RequestRouting

namespace Router

variable {r start : Router} (registry : HandlerRegistry)

theorem useNames_settings (names : List String) (r : Router) :
    (useNames registry names r).2.settings = r.settings := by
  induction names generalizing r with
  | nil => rfl
  | cons name rest ih =>
    rw [useNames]
    cases registry.get? name with
    | none => rfl
    | some h => exact ih (r.use h)

theorem registerRow_settings (s : RouteSpec) (r : Router) :
    (r.registerRow registry s).2.settings = r.settings := by
  cases hrow : RouteTable.resolveRow registry s with
  | error fault => rw [registerRow_of_error hrow]
  | ok row =>
    rw [registerRow_of_ok hrow]
    exact r.registerWith_settings _ _ _ _

theorem registerRows_settings (index : Nat) (rows : List RouteSpec) (r : Router) :
    (registerRows registry index rows r).2.settings = r.settings := by
  induction rows generalizing index r with
  | nil => rfl
  | cons s rest ih =>
    have hrow := registerRow_settings registry s r
    rw [registerRows_cons]
    generalize r.registerRow registry s = registered at hrow ⊢
    obtain ⟨_ | _, next⟩ := registered
    · exact hrow
    · exact (ih _ next).trans hrow

theorem configure_of_settings {c : RuntimeConfig} (h : r.settings = c.settings) :
    r.configure c = r := by
  obtain ⟨hfallback, hthreshold⟩ := Prod.ext_iff.mp h
  exact congrArg₂ (fun b n => { r with headFallback := b, slowMatchThreshold := n })
    hfallback.symm hthreshold.symm

theorem Follows.extend {registry : HandlerRegistry} (h : start.Follows [])
    (hbare : start.middleware = []) {t : RouteTable}
    (hextend : start.extend t registry = (.ok (), r)) :
    (∃ history, r.Follows history) ∧ r.settings = start.settings ∧
      ∀ e ∈ r.entries, ∃ s, RouteSpec.Becomes registry t.middleware s e := by
  rw [Router.extend] at hextend
  have hnone : start.middleware.map some = [].map registry.get? := congrArg (List.map some) hbare
  have hinstalls : (Router.useNames registry t.middleware start).1 = .ok () → _ :=
    h.useNames [] hnone
  have hsettings := useNames_settings registry t.middleware start
  generalize Router.useNames registry t.middleware start = installed
    at hextend hinstalls hsettings
  obtain ⟨result, middle⟩ := installed
  cases result with
  | error e => cases hextend
  | ok done =>
    have hregistered : Router.registerRows registry 0 t.routes middle = (.ok (), r) := hextend
    dsimp only at hinstalls hsettings
    obtain ⟨hfollows, hinstalled⟩ := hinstalls rfl
    obtain ⟨made, history, -, hbecomes, hbuilt, hroutes⟩ :=
      hfollows.registerRows hinstalled (congrArg Prod.fst hregistered)
    have hrows := registerRows_settings registry 0 t.routes middle
    rw [hregistered] at hbuilt hrows
    refine ⟨⟨history, hbuilt⟩, hrows.trans hsettings, fun e he => ?_⟩
    rw [hbuilt.entries] at he
    have hmem : e ∈ history.routes := (latestBy?_eq_some (mem_listingBy.1 he)).1
    have hmade : e ∈ made.map (·.2) := by
      rw [hroutes] at hmem
      exact hmem
    obtain ⟨p, hp, rfl⟩ := List.mem_map.mp hmade
    exact ⟨p.1, hbecomes p hp⟩

end Router

end RequestRouting

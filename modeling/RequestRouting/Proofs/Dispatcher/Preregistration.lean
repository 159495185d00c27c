import Mathlib.Data.List.Sort
import RequestRouting.Proofs.Chain.Maintaining
import RequestRouting.Proofs.Dispatcher.Counters
import RequestRouting.Proofs.SharedRouter.Stability

/-!
# Patterns listed in advance

A request comes to a meter with the pattern of its route, which is a pattern of the router. Once
these are listed, a meter has all the names that requests to the router can give it.
-/

set_option autoImplicit false

namespace RequestRouting

open Chain

def Context.KeepsPattern (c c' : Context) : Prop := c'.pattern = c.pattern

theorem Handler.Keeps.maintains_pattern {h : Handler} (hkeeps : h.Keeps Context.KeepsPattern)
    (pattern : String) : h.Maintains fun c => c.pattern = pattern := by
  refine hkeeps.maintains (fun hsame hpattern => Eq.trans hsame hpattern) fun _ e he => ?_
  obtain ⟨id, hcontext⟩ := RequestIdHeader.adopt_context e
  rw [hcontext]
  exact he

theorem Moment.counted?_eq_some {meter : String} {chain : List Handler} {m : Moment}
    {pattern : String} (h : m.counted? meter chain = some pattern) :
    m.execution.context.pattern = pattern := by
  obtain ⟨event, e⟩ := m
  cases event with
  | entered place =>
    rw [counted?_entered, Option.ite_none_right_eq_some] at h
    exact Option.some.inj h.2
  | called place => cases h
  | resumed place outcome state => cases h
  | left place outcome => cases h

section

variable {meter : String} {w : World}

theorem Arrival.mem_counted {a : Arrival} {pattern : String} (h : pattern ∈ a.counted meter w) :
    ∃ route, a.lookup = .found route ∧
      ∃ m ∈ a.moments w, m.execution.context.pattern = pattern := by
  rcases a.route_cases with ⟨route, hfound⟩ | hnone
  · rw [counted_of_found hfound] at h
    obtain ⟨m, hm, hcounted⟩ := List.mem_filterMap.mp h
    exact ⟨route, hfound, m, hm, Moment.counted?_eq_some hcounted⟩
  · rw [counted_of_no_route hnone] at h
    exact absurd h List.not_mem_nil

theorem Arrival.counted_eq {a : Arrival} {route : RouteMatch} {pattern : String}
    (hfound : a.lookup = .found route)
    (hkeeps : ∀ h ∈ route.entry.chain, h.Keeps Context.KeepsPattern)
    (hcounted : pattern ∈ a.counted meter w) : pattern = route.entry.pattern := by
  obtain ⟨_, -, m, hm, hpattern⟩ := mem_counted hcounted
  rw [← hpattern]
  have hmaintains : ∀ h ∈ route.entry.chain,
      h.Maintains fun c => c.pattern = route.entry.pattern :=
    fun h hmem => (hkeeps h hmem).maintains_pattern _
  rw [moments_of_found hfound] at hm
  exact (advanceFrom_upholds (fun _ _ hc => hc) route.entry.chain.length hmaintains 0
    (a.start w route) rfl).1 m hm

namespace MeterStep

theorem listed_serve (arrivals : List Arrival) : listed (arrivals.map .serve) = [] := by
  rw [listed, List.flatMap_map]
  exact List.flatMap_eq_nil_iff.mpr fun _ _ => rfl

theorem mem_arrived_serve {arrivals : List Arrival} {pattern : String}
    (h : pattern ∈ arrived meter (arrivals.map .serve) w) :
    ∃ a ∈ arrivals, ∃ w', pattern ∈ a.counted meter w' := by
  induction arrivals generalizing w with
  | nil => exact absurd h List.not_mem_nil
  | cons a later ih =>
    rw [List.map_cons, arrived, List.mem_append] at h
    rcases h with hfirst | hlater
    · exact ⟨a, List.mem_cons_self, w, hfirst⟩
    · obtain ⟨a', ha', hcounted⟩ := ih hlater
      exact ⟨a', List.mem_cons_of_mem a ha', hcounted⟩

end MeterStep

end

theorem Meter.Tallies.names_eq {m m' : Meter} {listed arrived listed' arrived' : List String}
    {unanswered unanswered' : Nat} (h : m.Tallies listed arrived unanswered)
    (h' : m'.Tallies listed' arrived' unanswered')
    (hsame : ∀ pattern, pattern ∈ listed ∨ pattern ∈ arrived ↔
      pattern ∈ listed' ∨ pattern ∈ arrived') :
    m.paths.map (·.1) = m'.paths.map (·.1) :=
  List.Pairwise.eq_of_mem_iff h.sorted h'.sorted fun pattern =>
    (h.names pattern).trans ((hsame pattern).trans (h'.names pattern).symm)

namespace Router

theorem pathPatterns_eq (r : Router) :
    r.pathPatterns = (r.entries.map RouteEntry.pattern).eraseDups := by
  rw [← foldl_distinct, List.foldl_map]
  rfl

theorem mem_pathPatterns {r : Router} {pattern : String} :
    pattern ∈ r.pathPatterns ↔ ∃ e ∈ r.entries, e.pattern = pattern := by
  rw [pathPatterns_eq, List.mem_eraseDups, List.mem_map]

theorem Follows.counted_mem {r : Router} {history : History RouteEntry} (h : r.Follows history)
    (hkeeps : ∀ e ∈ r.entries, ∀ handler ∈ e.chain, handler.Keeps Context.KeepsPattern)
    {a : Arrival} {config : RuntimeConfig}
    (hserved : a.dispatcher.router.load = r.configure config) {meter : String} {w : World}
    {pattern : String} (hcounted : pattern ∈ a.counted meter w) : pattern ∈ r.pathPatterns := by
  obtain ⟨route, hfound, -⟩ := Arrival.mem_counted hcounted
  have hroute : (r.configure config).resolve a.request.method a.request.path = .found route :=
    hserved ▸ hfound
  have hmem : route.entry ∈ r.entries := (h.configure config).resolve_mem hroute
  rw [Arrival.counted_eq hfound (hkeeps _ hmem) hcounted]
  exact mem_pathPatterns.mpr ⟨route.entry, hmem, rfl⟩

/-- After the patterns of a router have been listed on a meter, no requests to the router, of
whichever methods and paths, add a name. Each pattern is listed where a route first has it. -/
theorem Built.no_name_added {r : Router} (hbuilt : r.Built)
    (hkeeps : ∀ e ∈ r.entries, ∀ h ∈ e.chain, h.Keeps Context.KeepsPattern) (meter : String)
    (w : World) (hnew : w.meters.get meter = {}) (earlier : List MeterStep)
    (arrivals : List Arrival)
    (hserved : ∀ a ∈ arrivals, ∃ config, a.dispatcher.router.load = r.configure config) :
    let ready := MeterStep.run meter (earlier ++ [.list r.pathPatterns]) w
    ((MeterStep.run meter (arrivals.map .serve) ready).meters.get meter).paths.map (·.1) =
        (ready.meters.get meter).paths.map (·.1) ∧
      (∀ pattern, pattern ∈ r.pathPatterns ↔ ∃ e ∈ r.entries, e.pattern = pattern) ∧
      r.pathPatterns.Nodup ∧
      r.pathPatterns.Pairwise fun p q => (r.entries.map RouteEntry.pattern).idxOf p <
        (r.entries.map RouteEntry.pattern).idxOf q := by
  intro ready
  obtain ⟨history, hfollows⟩ := hbuilt.follows
  have hstart : (w.meters.get meter).Tallies [] [] 0 := hnew ▸ Meter.Tallies.new
  have hready := MeterStep.tallies_run (earlier ++ [.list r.pathPatterns]) hstart
  have hlater := MeterStep.tallies_run (arrivals.map .serve) hready
  refine ⟨hlater.names_eq hready fun pattern => ?_, fun _ => mem_pathPatterns, ?_, ?_⟩
  · have hlisted : pattern ∈ MeterStep.arrived meter (arrivals.map .serve) ready →
        pattern ∈ MeterStep.listed (earlier ++ [.list r.pathPatterns]) := by
      intro harrived
      obtain ⟨a, ha, w', hcounted⟩ := MeterStep.mem_arrived_serve harrived
      obtain ⟨config, hconfig⟩ := hserved a ha
      rw [MeterStep.listed, List.flatMap_append, List.flatMap_singleton]
      exact List.mem_append_right _ (hfollows.counted_mem hkeeps hconfig hcounted)
    rw [MeterStep.listed_serve, List.append_nil, List.nil_append, List.mem_append]
    tauto
  · rw [pathPatterns_eq]
    exact eraseDups_nodup _
  · rw [pathPatterns_eq]
    exact eraseDups_pairwise_idxOf _

theorem Built.no_name_added_on_items :
    let item : Handler := .endpoint "item" fun scope _ => (.ok, scope)
    let r := ({} : Router).run [.use (.metrics "meter"), .register .get "/items/:id/" [] [item],
      .register .post "/items/:id/" [] [item], .register .get "/" [] [item],
      .register .get "/items/:id" [] [item]]
    let arrival (target : Method × String) : Arrival :=
      { dispatcher := .withConfig r {}, request := { method := target.1, uri := target.2 } }
    let arrivals :=
      [(.head, "/items/7"), (.post, "/items/8"), (.put, "/"), (.get, "/a")].map arrival
    let ready := MeterStep.run "meter" ([.list ["/old"]] ++ [.list r.pathPatterns]) {}
    let after := MeterStep.run "meter" (arrivals.map .serve) ready
    r.Built ∧ (∀ e ∈ r.entries, ∀ h ∈ e.chain, h.Keeps Context.KeepsPattern) ∧
      ({} : World).meters.get "meter" = {} ∧
      (∀ a ∈ arrivals, ∃ config, a.dispatcher.router.load = r.configure config) ∧
      r.pathPatterns = ["/items/:id", "/items/:id/", "/"] ∧
      (after.meters.get "meter").paths =
        [("/", 0), ("/items/:id", 1), ("/items/:id/", 1), ("/old", 0)] ∧
      (after.meters.get "meter").paths.map (·.1) =
        (ready.meters.get "meter").paths.map (·.1) := by
  intro item r arrival arrivals ready after
  have hbuilt : r.Built := ⟨_, rfl⟩
  have hchains : r.entries.map RouteEntry.chain =
      List.replicate 3 [.metrics "meter", item] := rfl
  have hkeeps : ∀ e ∈ r.entries, ∀ h ∈ e.chain, h.Keeps Context.KeepsPattern := by
    intro e he
    have hmem : e.chain ∈ r.entries.map RouteEntry.chain := List.mem_map_of_mem he
    rw [hchains] at hmem
    rw [List.eq_of_mem_replicate hmem]
    exact List.forall_mem_cons.mpr ⟨trivial, List.forall_mem_singleton.mpr fun _ _ => rfl⟩
  have hserved : ∀ a ∈ arrivals, ∃ config, a.dispatcher.router.load = r.configure config := by
    intro a ha
    obtain ⟨target, -, rfl⟩ := List.mem_map.mp ha
    exact ⟨{}, rfl⟩
  exact ⟨hbuilt, hkeeps, rfl, hserved, by decide +kernel, by decide +kernel,
    (hbuilt.no_name_added hkeeps "meter" {} rfl [.list ["/old"]] arrivals hserved).1⟩

end Router

end RequestRouting

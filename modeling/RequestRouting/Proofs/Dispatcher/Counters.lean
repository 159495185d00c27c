import RequestRouting.Proofs.Chain.Tallies
import RequestRouting.Proofs.Dispatcher.ErrorCounts

/-!
# The counters of a meter

A meter is shared by chains of any dispatchers, and patterns may be listed on it at any time. What
its counters say is told by the requests that have come to it.
-/

set_option autoImplicit false

namespace RequestRouting

open Chain

/-- The patterns with which a request comes to the meter: none if it finds no route, and as many as
its chain has handlers that count on the meter, if all of them are entered. -/
def Arrival.counted (meter : String) (a : Arrival) (w : World) : List String :=
  a.lookup.route?.elim [] fun route => Chain.counted meter route.entry.chain (a.moments w)

inductive MeterStep where
  | serve (a : Arrival)
  | list (patterns : List String)

namespace MeterStep

def patterns : MeterStep → List String
  | .serve _ => []
  | .list patterns => patterns

def counted (meter : String) : MeterStep → World → List String
  | .serve a, w => a.counted meter w
  | .list _, _ => []

def next (meter : String) : MeterStep → World → World
  | .serve a, w => (a.serve w).2
  | .list patterns, w =>
    { w with meters := w.meters.update meter fun m => m.register patterns }

def run (meter : String) : List MeterStep → World → World
  | [], w => w
  | s :: later, w => run meter later (s.next meter w)

def listed (steps : List MeterStep) : List String := steps.flatMap patterns

def arrived (meter : String) : List MeterStep → World → List String
  | [], _ => []
  | s :: later, w => s.counted meter w ++ arrived meter later (s.next meter w)

end MeterStep

section

variable {meter : String} {listed arrived : List String} {w : World}

theorem Arrival.counted_of_found {a : Arrival} {route : RouteMatch}
    (hfound : a.lookup = .found route) :
    a.counted meter w = Chain.counted meter route.entry.chain (a.moments w) := by
  rw [counted, hfound, RouteLookup.route?, Option.elim_some]

theorem Arrival.counted_of_no_route {a : Arrival} (hnone : a.lookup.route? = none) :
    a.counted meter w = [] := by
  rw [counted, hnone, Option.elim_none]

theorem Arrival.tallies_serve {a : Arrival}
    (h : (w.meters.get meter).Tallies listed arrived 0) :
    ((a.serve w).2.meters.get meter).Tallies listed (arrived ++ a.counted meter w) 0 ∧
      ∀ route, a.lookup = .found route →
        Tallied meter route.entry.chain listed arrived (a.moments w) := by
  rcases a.route_cases with ⟨route, hfound⟩ | hnone
  · have hstart : ((a.start w route).meters.get meter).Tallies listed arrived 0 := h
    obtain ⟨hmoments, hafter⟩ := advanceFrom_tallying meter route.entry.chain listed
      route.entry.chain.length List.drop_zero (a.start w route) arrived 0 hstart
    rw [counted_of_found hfound, moments_of_found hfound, (serve_of_found hfound).2]
    refine ⟨hafter, fun route' hfound' => ?_⟩
    cases hfound.symm.trans hfound'
    exact hmoments
  · rw [counted_of_no_route hnone, List.append_nil, (serve_of_no_route hnone).2]
    refine ⟨h, fun route hfound => ?_⟩
    rw [hfound] at hnone
    cases hnone

theorem MeterStep.tallies_next (s : MeterStep)
    (h : (w.meters.get meter).Tallies listed arrived 0) :
    ((s.next meter w).meters.get meter).Tallies (listed ++ s.patterns)
      (arrived ++ s.counted meter w) 0 := by
  cases s with
  | serve a =>
    rw [patterns, List.append_nil, counted, next]
    exact (Arrival.tallies_serve h).1
  | list patterns =>
    rw [counted, List.append_nil, next, Meters.get_update, if_pos rfl]
    exact h.register patterns

theorem MeterStep.tallies_run (steps : List MeterStep)
    (h : (w.meters.get meter).Tallies listed arrived 0) :
    ((run meter steps w).meters.get meter).Tallies (listed ++ MeterStep.listed steps)
      (arrived ++ MeterStep.arrived meter steps w) 0 := by
  induction steps generalizing w listed arrived with
  | nil =>
    rw [MeterStep.listed, MeterStep.arrived, List.flatMap_nil, List.append_nil, List.append_nil]
    exact h
  | cons s later ih =>
    rw [MeterStep.listed, MeterStep.arrived, List.flatMap_cons, ← List.append_assoc,
      ← List.append_assoc]
    exact ih (s.tallies_next h)

end

/-- Whatever is listed and dispatched, and whatever the handlers do with errors and panics. The
counters agree between any two steps and at each moment of a dispatch; none is larger than the first
of them. -/
theorem MeterStep.counters_agree (meter : String) (w : World) (hnew : w.meters.get meter = {})
    (steps : List MeterStep) :
    ((run meter steps w).meters.get meter).Tallies (listed steps) (arrived meter steps w) 0 ∧
    (∀ patterns pattern, (((run meter steps w).meters.get meter).register patterns).pathCount
      pattern = ((run meter steps w).meters.get meter).pathCount pattern) ∧
    ∀ (a : Arrival) route before moment after, a.lookup = .found route →
      a.moments (run meter steps w) = before ++ moment :: after →
        (moment.execution.meters.get meter).Tallies (listed steps)
          (arrived meter steps w ++ Chain.counted meter route.entry.chain before) 0 := by
  have hstart : (w.meters.get meter).Tallies [] [] 0 := hnew ▸ Meter.Tallies.new
  have hreached := tallies_run steps hstart
  rw [List.nil_append, List.nil_append] at hreached
  refine ⟨hreached, fun patterns pattern => Meter.pathCount_register _ patterns pattern, ?_⟩
  intro a route before moment after hfound hsplit
  obtain ⟨-, htallied⟩ := Arrival.tallies_serve (a := a) hreached
  generalize a.moments (run meter steps w) = moments at htallied hsplit
  exact (htallied route hfound).split hsplit

theorem MeterStep.counters_agree_of_panic :
    let router := ((({} : Router).use (.custom none (.advance fun _ => .finish .ok))).use
      (.metrics "meter")).use (.metrics "meter")
    let panicking : Handler := .endpoint "panic" fun scope _ => (.panicked .other, scope)
    let a : Arrival :=
      { dispatcher := .withConfig (router.register .get "/b" panicking).2 {}
        request := { method := .get, uri := "/b" } }
    let steps : List MeterStep := [.list ["/b", "/a"], .serve a, .list ["/b"]]
    (({} : World).meters.get "meter" = {}) ∧ arrived "meter" steps {} = ["/b", "/b"] ∧
      (run "meter" steps {}).meters.get "meter" = ⟨2, 0, 0, [("/a", 0), ("/b", 2)]⟩ ∧
      ((run "meter" steps {}).meters.get "meter").Tallies ["/b", "/a", "/b"] ["/b", "/b"] 0 := by
  intro router panicking a steps
  have harrived : arrived "meter" steps {} = ["/b", "/b"] := by decide +kernel
  have htallies := (counters_agree "meter" {} rfl steps).1
  rw [harrived] at htallies
  exact ⟨rfl, harrived, by decide +kernel, htallies⟩

end RequestRouting

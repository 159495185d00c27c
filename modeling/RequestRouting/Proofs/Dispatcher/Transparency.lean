import RequestRouting.Proofs.Chain.Observation
import RequestRouting.Proofs.Dispatcher.ErrorCounts

/-!
# Observers do not show

Requests are answered as if there were no tracing and no metrics: whatever requests come, to routes
with an observer in front of any of their handlers or to the same routes without, all other handlers
find the same and do the same, and the answers are the same. Only a handler that reads the meter on
which an observer counts can tell.
-/

set_option autoImplicit false

namespace RequestRouting

open Chain

theorem Dispatcher.withoutBody_scope {e e' : Execution} (h : e.scope = e'.scope) :
    (withoutBody e).scope = (withoutBody e').scope := by
  rw [withoutBody, withoutBody, Execution.context, Execution.context, h]
  split
  · simp only [Execution.mapContext, h]
  · exact h

theorem Dispatcher.conclude_scope (outcome : Outcome) {e e' : Execution} (h : e.scope = e'.scope) :
    (conclude outcome e').1 = (conclude outcome e).1 ∧
      (conclude outcome e').2.scope.notes = (conclude outcome e).2.scope.notes := by
  cases outcome with
  | ok =>
    have hdone := withoutBody_scope h
    simp only [conclude, Execution.context, Execution.log, hdone, and_self]
  | failed error => simp only [conclude, h, and_self]
  | panicked payload => simp only [conclude, h, and_self]

/-- The lookups come to the same, but for an observer in the chain of the second route. -/
inductive RouteLookup.Watched (seen : String → Prop) :
    Nat → RouteLookup → RouteLookup → Prop where
  | unrouted {lookup : RouteLookup} (h : lookup.route? = none) : Watched seen 0 lookup lookup
  | routed {place : Nat} {route route' : RouteMatch} (hpattern : route'.entry.pattern =
      route.entry.pattern) (hparams : route'.params = route.params)
      (hchain : Chain.Watched seen place route.entry.chain route'.entry.chain) :
      Watched seen place (.found route) (.found route')

namespace Arrival

/-- The same request under the same conditions, to a route that may have one observer more, which
does not count on the meters that are seen. -/
structure Watched (seen : String → Prop) (place : Nat) (a a' : Arrival) : Prop where
  request : a'.request = a.request
  signal : a'.signal = a.signal
  minted : a'.minted = a.minted
  lookup : a.lookup.Watched seen place a'.lookup

def NeverInspected (a : Arrival) : Prop :=
  ∀ route, a.lookup = .found route → ∀ h ∈ route.entry.chain, h.NeverInspects

def ReadsOnly (seen : String → Prop) (a : Arrival) : Prop :=
  ∀ route, a.lookup = .found route → ∀ h ∈ route.entry.chain, h.ReadsOnly seen

/-- Two requests, each with the world that it comes to, of which the same is to be told: the answer,
the notes and the meters that are left, and what happens to which handler in which scope, the
observer apart. -/
structure Alike (seen : String → Prop) (v v' : Arrival × World) : Prop where
  answer : (v'.1.serve v'.2).1 = (v.1.serve v.2).1
  notes : (v'.1.serve v'.2).2.notes = (v.1.serve v.2).2.notes
  meters : Gauges.AgreeOn seen (v.1.serve v.2).2.meters.get (v'.1.serve v'.2).2.meters.get
  told : ∃ place, v.1.Watched seen place v'.1 ∧ toldOfOthers place (v'.1.moments v'.2) =
    (v.1.moments v.2).map (Moment.toldBeside place)

variable {seen : String → Prop}

theorem start_parallel {place : Nat} {a a' : Arrival} (h : a.Watched seen place a') {w w' : World}
    (hnotes : w'.notes = w.notes) (hmeters : Gauges.AgreeOn seen w.meters.get w'.meters.get)
    {route route' : RouteMatch} (hpattern : route'.entry.pattern = route.entry.pattern)
    (hparams : route'.params = route.params) :
    (a.start w route).Parallel Eq Eq seen (a'.start w' route') := by
  refine ⟨?_, rfl, rfl, hmeters⟩
  simp only [start, Dispatcher.start, Dispatcher.contextOf, h.request, h.signal, h.minted, hpattern,
    hparams, hnotes]

theorem refused_of_no_route {a : Arrival} {w : World} (hnone : a.lookup.route? = none) :
    (a.serve w).1 = .refused (match a.lookup with
      | .methodNotAllowed allowed => .methodNotAllowed a.request.method a.request.path allowed
      | _ => .notFound a.request.method a.request.path) ∧ (a.serve w).2.notes = w.notes := by
  unfold serve Dispatcher.dispatchWith
  cases hlookup : a.lookup with
  | found route => cases hlookup ▸ hnone
  | methodNotAllowed allowed =>
    rw [lookup] at hlookup
    simp only [hlookup, and_self]
  | notFound =>
    rw [lookup] at hlookup
    simp only [hlookup, and_self]

theorem Watched.alike_of_no_route {place : Nat} {a a' : Arrival} (h : a.Watched seen place a')
    (hnone : a.lookup.route? = none) {w w' : World} (hnotes : w'.notes = w.notes)
    (hmeters : Gauges.AgreeOn seen w.meters.get w'.meters.get) :
    Alike seen (a, w) (a', w') := by
  have hsame : a'.lookup = a.lookup := by
    have hlookup := h.lookup
    generalize a.lookup = lookup, a'.lookup = lookup' at hlookup hnone
    cases hlookup with
    | unrouted _ => rfl
    | routed _ _ _ => cases hnone
  have hnone' : a'.lookup.route? = none := by rw [hsame, hnone]
  obtain ⟨hanswer, hleft⟩ := refused_of_no_route (w := w) hnone
  obtain ⟨hanswer', hleft'⟩ := refused_of_no_route (w := w') hnone'
  obtain ⟨hidle, hkept⟩ := serve_of_no_route (w := w) hnone
  obtain ⟨hidle', hkept'⟩ := serve_of_no_route (w := w') hnone'
  refine ⟨?_, ?_, ?_, place, h, ?_⟩
  · rw [hanswer, hanswer', hsame, h.request]
  · rw [hleft, hleft', hnotes]
  · rw [hkept, hkept']
    exact hmeters
  · rw [hidle, hidle']
    rfl

theorem Watched.alike {place : Nat} {a a' : Arrival} (h : a.Watched seen place a')
    (hunsighted : a.NeverInspected) (hreads : a.ReadsOnly seen) {w w' : World}
    (hnotes : w'.notes = w.notes) (hmeters : Gauges.AgreeOn seen w.meters.get w'.meters.get) :
    Alike seen (a, w) (a', w') := by
  have hlookup := h.lookup
  cases hfound : a.lookup with
  | found route =>
    rw [hfound] at hlookup
    generalize hfound' : a'.lookup = lookup' at hlookup
    cases hlookup with
    | unrouted hnone => cases hnone
    | @routed _ _ route' hpattern hparams hchain =>
      obtain ⟨⟨houtcome, hafter⟩, htold⟩ := hchain.accords
        (fun h hmem => ⟨hunsighted route hfound h hmem, hreads route hfound h hmem⟩)
        (start_parallel h hnotes hmeters hpattern hparams) rfl
      obtain ⟨hanswer, hleft⟩ := Dispatcher.conclude_scope
        (advance route.entry.chain (a.start w route)).1 hafter.scope
      refine ⟨?_, ?_, ?_, place, h, ?_⟩
      · rw [(serve_of_found hfound).1, (serve_of_found hfound').1, houtcome, hanswer]
      · rw [notes_of_found hfound, notes_of_found hfound', houtcome, hleft]
      · rw [(serve_of_found hfound).2, (serve_of_found hfound').2]
        exact hafter.gauges
      · rw [moments_of_found hfound, moments_of_found hfound', htold]
  | methodNotAllowed allowed => exact h.alike_of_no_route (congrArg _ hfound) hnotes hmeters
  | notFound => exact h.alike_of_no_route (congrArg _ hfound) hnotes hmeters

end Arrival

end RequestRouting

import RequestRouting.Proofs.Chain.Containment
import RequestRouting.Proofs.Chain.Metering
import RequestRouting.Proofs.Chain.Timeline

/-!
# Arrivals behind a recovery

A request that finds a route whose chain begins with a recovery is answered, with the response that
the recovery leaves. What happens to the handlers of the chain can be read off the moments of the
run.
-/

set_option autoImplicit false

namespace RequestRouting

open ChainEvent

def Response.head (r : Response) : Nat × Headers := (r.status, r.headers)

namespace Dispatcher

theorem withoutBody_head (e : Execution) :
    (withoutBody e).context.response.head = e.context.response.head := by
  rw [withoutBody]
  split <;> rfl

theorem withoutBody_status (e : Execution) :
    (withoutBody e).context.response.status = e.context.response.status :=
  congrArg Prod.fst (withoutBody_head e)

theorem withoutBody_notes (e : Execution) : (withoutBody e).scope.notes = e.scope.notes := by
  rw [withoutBody]
  split <;> rfl

theorem withoutBody_meters (e : Execution) : (withoutBody e).meters = e.meters := by
  rw [withoutBody]
  split <;> rfl

theorem conclude_meters (outcome : Outcome) (e : Execution) :
    (conclude outcome e).2.meters = e.meters := by
  cases outcome with
  | ok => exact withoutBody_meters e
  | failed error => rfl
  | panicked payload => rfl

end Dispatcher

def RouteLookup.route? : RouteLookup → Option RouteMatch
  | .found route => some route
  | _ => none

/-- A request that comes to a dispatcher, with its signal and the identifier made for it. -/
structure Arrival where
  dispatcher : Dispatcher
  request : Request
  signal : CancelSignal := {}
  minted : RequestId := ⟨0⟩

namespace Arrival

def lookup (a : Arrival) : RouteLookup :=
  a.dispatcher.router.load.resolve a.request.method a.request.path

def serve (a : Arrival) (w : World) : DispatchResult × World :=
  a.dispatcher.dispatchWith a.request a.signal a.minted w

def start (a : Arrival) (w : World) (route : RouteMatch) : Execution :=
  Dispatcher.start { w with
      journal := w.journal ++
        a.dispatcher.router.load.resolveEvents a.request.method a.request.path }
    (Dispatcher.contextOf a.request route a.minted a.signal)

def moments (a : Arrival) (w : World) : List Moment :=
  a.lookup.route?.elim [] fun route => Chain.moments route.entry.chain (a.start w route)

variable {a : Arrival} {w : World} {route : RouteMatch}

theorem route_cases (a : Arrival) :
    (∃ route, a.lookup = .found route) ∨ a.lookup.route? = none := by
  cases hlookup : a.lookup with
  | found route => exact .inl ⟨route, rfl⟩
  | methodNotAllowed allowed => exact .inr rfl
  | notFound => exact .inr rfl

theorem moments_of_found (hfound : a.lookup = .found route) :
    a.moments w = Chain.moments route.entry.chain (a.start w route) := by
  rw [moments, hfound]
  rfl

theorem serve_of_found (hfound : a.lookup = .found route) :
    (a.serve w).1 = (Dispatcher.conclude (Chain.advance route.entry.chain (a.start w route)).1
        (Chain.advance route.entry.chain (a.start w route)).2).1 ∧
      (a.serve w).2.meters = (Chain.advance route.entry.chain (a.start w route)).2.meters := by
  rw [← Dispatcher.conclude_meters (Chain.advance route.entry.chain (a.start w route)).1]
  rw [lookup] at hfound
  unfold serve Dispatcher.dispatchWith
  simp only [hfound]
  exact ⟨rfl, rfl⟩

theorem notes_of_found (hfound : a.lookup = .found route) : (a.serve w).2.notes =
    (Dispatcher.conclude (Chain.advance route.entry.chain (a.start w route)).1
      (Chain.advance route.entry.chain (a.start w route)).2).2.scope.notes := by
  rw [lookup] at hfound
  unfold serve Dispatcher.dispatchWith
  simp only [hfound]
  rfl

theorem ready_start (hlive : a.signal.isCancelled = false) :
    Chain.Ready 0 (a.start w route) :=
  ⟨nofun, rfl, hlive⟩

end Arrival

theorem Arrival.answered_of_recovery {a : Arrival} {w : World} {route : RouteMatch}
    {exposeDetails : Bool} {rest : List Handler} {down : Outcome × Execution}
    (hfound : a.lookup = .found route)
    (hchain : route.entry.chain = .recovery exposeDetails :: rest)
    (hlive : a.signal.isCancelled = false)
    (hdown : Chain.advanceFrom (rest.length + 1) rest 1
      (Chain.enter (.recovery exposeDetails) (a.start w route)) = down) :
    ∃ response, (a.serve w).1 = .answered response ∧
      response.head = (Recovery.answer exposeDetails down.2.context.response down.1).head ∧
      (a.serve w).2.meters = down.2.meters := by
  have hready : Chain.Ready 0 (a.start w route) := ready_start hlive
  have hadvance : Chain.advanceFrom (rest.length + 1) (.recovery exposeDetails :: rest) 0
      (a.start w route) = (_, _) := hready.advanceFrom_eq
  simp only [Handler.run, Recovery.run_ok] at hadvance
  obtain ⟨hserved, hmeters⟩ := serve_of_found hfound
  rw [hchain, Chain.advance, List.length_cons, hadvance] at hserved hmeters
  refine ⟨_, hserved, ?_, ?_⟩
  · rw [Dispatcher.withoutBody_head, Chain.leave_context, Recovery.run_context, ← hdown]
  · rw [hmeters, Chain.leave_meters, Recovery.run_meters, ← hdown]

namespace Arrival

def second (a : Arrival) (w : World) (route : RouteMatch) (exposeDetails : Bool) (h : Handler) :
    Execution :=
  Chain.enter h (Chain.enter (.recovery exposeDetails) (a.start w route))

section

variable {a : Arrival} {w : World} {route : RouteMatch} {exposeDetails : Bool} {h : Handler}
  {rest : List Handler}
  (hfound : a.lookup = .found route)
  (hchain : route.entry.chain = .recovery exposeDetails :: h :: rest)
  (hlive : a.signal.isCancelled = false)

include hfound hchain hlive

theorem answered_of_second {result : Outcome × Execution}
    (hresult : h.run (rest.length + 2) (Chain.advanceFrom (rest.length + 2) rest 2)
      (a.second w route exposeDetails h) = result) :
    ∃ response, (a.serve w).1 = .answered response ∧
      response.head = (Recovery.answer exposeDetails result.2.context.response result.1).head ∧
      (a.serve w).2.meters = result.2.meters := by
  have hready : Chain.Ready 1 (Chain.enter (.recovery exposeDetails) (a.start w route)) :=
    (ready_start hlive).enter _
  have hdown : Chain.advanceFrom (rest.length + 2) (h :: rest) 1
      (Chain.enter (.recovery exposeDetails) (a.start w route)) =
        (result.1, Chain.leave 1 result.1 result.2) := hresult ▸ hready.advanceFrom_eq
  obtain ⟨response, hanswered, hhead, hmeters⟩ := answered_of_recovery hfound hchain hlive hdown
  refine ⟨response, hanswered, ?_, ?_⟩
  · rw [hhead, Chain.leave_context]
  · rw [hmeters, Chain.leave_meters]

theorem mem_moments_second {call : Execution}
    (hcall : h.calls (rest.length + 2) (Chain.advanceFrom (rest.length + 2) rest 2)
      (a.second w route exposeDetails h) = [call]) {m : Moment} (hm : m.event.index = 1) :
    m ∈ a.moments w ↔
      m = ⟨entered 1, a.second w route exposeDetails h⟩ ∨ m = ⟨called 1, call⟩ ∨
        m = ⟨resumed 1 (Chain.advanceFrom (rest.length + 2) rest 2 call).1
          (Chain.advanceFrom (rest.length + 2) rest 2 call).2.state,
          (Chain.advanceFrom (rest.length + 2) rest 2 call).2⟩ ∨
        m = ⟨left 1 (h.run (rest.length + 2) (Chain.advanceFrom (rest.length + 2) rest 2)
            (a.second w route exposeDetails h)).1,
          (h.run (rest.length + 2) (Chain.advanceFrom (rest.length + 2) rest 2)
            (a.second w route exposeDetails h)).2⟩ := by
  have hready : Chain.Ready 0 (a.start w route) := ready_start hlive
  have hplace : m.event.index ≠ 0 := by omega
  rw [moments_of_found hfound, hchain]
  exact (hready.mem_moments_behind rfl hplace).trans
    ((hready.enter _).mem_moments_here hcall hm)

end

end Arrival

end RequestRouting

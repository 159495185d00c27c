import RequestRouting.Proofs.Chain.Panic
import RequestRouting.Proofs.Dispatcher.Recovered

/-!
# Errors on the meter

A meter right behind a recovery counts the requests that come to it, and their answers by status.
An error it counts with the status with which the recovery answers it. A panic goes through the
meter uncounted, and so there are more answers with 5xx than server errors.
-/

set_option autoImplicit false

namespace RequestRouting

open ChainEvent

section

variable {meter : String} {advance : Step}

theorem HandlerError.response_status (error : HandlerError) :
    error.response.status = error.statusCode := by
  cases error <;> rfl

structure Meter.Counts (before after : Meter) (status : Nat) (outcome : Outcome) : Prop where
  requests : after.requests = before.requests + 1
  clientErrors : after.clientErrors = before.clientErrors + if isClientError status then 1 else 0
  serverErrors : after.serverErrors + (if outcome.returned = false then 1 else 0) =
    before.serverErrors + if isServerError status then 1 else 0

theorem Meter.counts_of_returned {outcome : Outcome} (h : outcome.returned) (before : Meter)
    (pattern : String) (status : Nat) :
    before.Counts ((before.enter pattern).answer status) status outcome := by
  obtain ⟨hrequests, hclient, hserver⟩ := (before.enter pattern).answer_counts status
  refine ⟨hrequests, hclient, ?_⟩
  rw [hserver, h]
  rfl

theorem Metrics.run_counts (h : Step.Spares meter advance) (exposeDetails : Bool) (e : Execution)
    {result : Outcome × Execution} (hresult : Metrics.run meter advance e = result) :
    (e.meters.get meter).Counts (result.2.meters.get meter)
      (Recovery.answer exposeDetails result.2.context.response result.1).status result.1 := by
  have hcall := h (e.updateMeter meter fun m => m.enter e.context.pattern)
  rw [Metrics.run] at hresult
  generalize advance (e.updateMeter meter fun m => m.enter e.context.pattern) = behind
    at hcall hresult
  obtain ⟨outcome, after⟩ := behind
  have hmeter : after.meters.get meter = (e.meters.get meter).enter e.context.pattern :=
    hcall.trans (e.updateMeter_get_self meter _)
  have hanswer (status : Nat) : ((after.updateMeter meter fun m => m.answer status).meters.get
      meter) = ((e.meters.get meter).enter e.context.pattern).answer status := by
    rw [after.updateMeter_get_self, hmeter]
  cases outcome with
  | ok =>
    subst hresult
    dsimp only
    rw [hanswer]
    exact Meter.counts_of_returned rfl _ _ _
  | failed error =>
    subst hresult
    dsimp only [Recovery.answer]
    rw [hanswer, error.response_status]
    exact Meter.counts_of_returned rfl _ _ _
  | panicked payload =>
    subst hresult
    dsimp only
    rw [hmeter]
    exact ⟨rfl, rfl, rfl⟩

end

def DispatchResult.isAnswered (kind : Nat → Bool) : DispatchResult → Bool
  | .answered response => kind response.status
  | _ => false

namespace Arrival

def enters (place : Nat) (a : Arrival) (w : World) : Bool :=
  (a.moments w).any fun m => m.event == entered place

/-- A panic goes through the handler at this place of the chain. -/
def unwinds (place : Nat) (a : Arrival) (w : World) : Bool :=
  (a.moments w).any fun m => m.event.index == place && m.event.isPanic

def isAnswered (kind : Nat → Bool) (a : Arrival) (w : World) : Bool :=
  (a.serve w).1.isAnswered kind

/-- The route of the request, if there is one, begins with a recovery, and the meter is the next of
its handlers and not one of the others. -/
def Metered (meter : String) (a : Arrival) : Prop :=
  ∀ route, a.lookup = .found route → ∃ exposeDetails rest,
    route.entry.chain = .recovery exposeDetails :: .metrics meter :: rest ∧
      ∀ h ∈ rest, h.Spares meter

def visits : List Arrival → World → List (Arrival × World)
  | [], _ => []
  | a :: later, w => (a, w) :: visits later (a.serve w).2

def serveAll : List Arrival → World → World
  | [], w => w
  | a :: later, w => serveAll later (a.serve w).2

structure Counted (meter : String) (arrivals : List Arrival) (w : World) : Prop where
  requests : ((serveAll arrivals w).meters.get meter).requests =
    (w.meters.get meter).requests + (visits arrivals w).countP fun v => v.1.enters 1 v.2
  clientErrors : ((serveAll arrivals w).meters.get meter).clientErrors =
    (w.meters.get meter).clientErrors + (visits arrivals w).countP fun v =>
      v.1.enters 1 v.2 && v.1.isAnswered Meter.isClientError v.2
  serverErrors : ((serveAll arrivals w).meters.get meter).serverErrors +
      (visits arrivals w).countP (fun v => v.1.unwinds 1 v.2) =
    (w.meters.get meter).serverErrors + (visits arrivals w).countP fun v =>
      v.1.enters 1 v.2 && v.1.isAnswered Meter.isServerError v.2

variable {meter : String} {a : Arrival} {w : World} {route : RouteMatch} {exposeDetails : Bool}
  {rest : List Handler}

theorem Counted.cons {later : List Arrival} (h : Counted meter [a] w)
    (h' : Counted meter later (a.serve w).2) : Counted meter (a :: later) w := by
  obtain ⟨hrequests, hclient, hserver⟩ := h
  obtain ⟨hrequests', hclient', hserver'⟩ := h'
  simp only [serveAll, visits, List.countP_cons, List.countP_nil] at hrequests hclient hserver
  constructor
  · simp only [serveAll, visits, List.countP_cons]
    omega
  · simp only [serveAll, visits, List.countP_cons]
    omega
  · simp only [serveAll, visits, List.countP_cons]
    omega

theorem counted_of_idle (hmoments : a.moments w = []) (hmeters : (a.serve w).2.meters = w.meters) :
    Counted meter [a] w := by
  constructor <;> simp [serveAll, hmeters, visits, enters, unwinds, hmoments]

theorem serve_of_no_route (h : a.lookup.route? = none) :
    a.moments w = [] ∧ (a.serve w).2.meters = w.meters := by
  constructor
  · rw [moments, h, Option.elim_none]
  · unfold serve Dispatcher.dispatchWith
    cases hlookup : a.lookup with
    | found route => cases hlookup ▸ h
    | methodNotAllowed allowed =>
      rw [lookup] at hlookup
      simp only [hlookup]
    | notFound =>
      rw [lookup] at hlookup
      simp only [hlookup]

theorem serve_of_cancelled (hfound : a.lookup = .found route) {h : Handler}
    (hchain : route.entry.chain = h :: rest) (hcancelled : a.signal.isCancelled = true) :
    a.moments w = [] ∧ (a.serve w).2.meters = w.meters := by
  have hrunning : ¬ (a.start w route).state = .completed := nofun
  have hreached : ¬ 0 < (a.start w route).cursor := Nat.lt_irrefl 0
  have hstop : (a.start w route).context.isCancelled = true := hcancelled
  constructor
  · rw [moments_of_found hfound, hchain, Chain.moments, Chain.momentsFrom, if_neg hrunning,
      if_neg hreached, if_pos hstop]
  · rw [(serve_of_found hfound).2, hchain, Chain.advance, Chain.advanceFrom, if_neg hrunning,
      if_neg hreached, if_pos hstop]
    rfl

theorem counted_of_second (hfound : a.lookup = .found route)
    (hchain : route.entry.chain = .recovery exposeDetails :: .metrics meter :: rest)
    (hspares : ∀ h ∈ rest, h.Spares meter) (hlive : a.signal.isCancelled = false) :
    Counted meter [a] w := by
  obtain ⟨result, hrun⟩ : ∃ result, Metrics.run meter (Chain.advanceFrom (rest.length + 2) rest 2)
      (a.second w route exposeDetails (.metrics meter)) = result := ⟨_, rfl⟩
  obtain ⟨response, hanswered, hhead, hmeters⟩ := answered_of_second hfound hchain hlive hrun
  have henters : a.enters 1 w = true := List.any_eq_true.mpr
    ⟨_, (mem_moments_second hfound hchain hlive rfl rfl).mpr (.inl rfl), by simp⟩
  have hunwinds : a.unwinds 1 w = !result.1.returned := by
    rw [unwinds, Bool.eq_iff_iff, List.any_eq_true, ← hrun]
    simp only [Bool.and_eq_true, beq_iff_eq]
    constructor
    · rintro ⟨m, hm, hplace, hpanic⟩
      rcases (mem_moments_second hfound hchain hlive rfl hplace).mp hm with rfl | rfl | rfl | rfl
      · cases hpanic
      · cases hpanic
      · cases hpanic
      · exact hpanic
    · intro hpanic
      exact ⟨_, (mem_moments_second hfound hchain hlive rfl rfl).mpr (.inr (.inr (.inr rfl))), rfl,
        hpanic⟩
  have hkind (kind : Nat → Bool) : a.isAnswered kind w = kind (Recovery.answer exposeDetails
      result.2.context.response result.1).status := by
    rw [isAnswered, hanswered, DispatchResult.isAnswered]
    exact congrArg (fun head => kind head.1) hhead
  have hcounts := Metrics.run_counts (Chain.advanceFrom_spares hspares 2) exposeDetails _ hrun
  have hbefore : (a.second w route exposeDetails (.metrics meter)).meters = w.meters := rfl
  rw [hbefore] at hcounts
  constructor
  · simp [serveAll, visits, hmeters, hcounts.requests, henters]
  · simp [serveAll, visits, hmeters, hcounts.clientErrors, henters, hkind]
  · simpa [serveAll, visits, hmeters, henters, hkind, hunwinds]
      using hcounts.serverErrors

theorem counted_of_metered (hmetered : a.Metered meter) (w : World) : Counted meter [a] w := by
  rcases a.route_cases with ⟨route, hfound⟩ | hnone
  · obtain ⟨exposeDetails, rest, hchain, hspares⟩ := hmetered route hfound
    cases hlive : a.signal.isCancelled with
    | false => exact counted_of_second hfound hchain hspares hlive
    | true =>
      obtain ⟨hmoments, hmeters⟩ := serve_of_cancelled (w := w) hfound hchain hlive
      exact counted_of_idle hmoments hmeters
  · obtain ⟨hmoments, hmeters⟩ := serve_of_no_route (w := w) hnone
    exact counted_of_idle hmoments hmeters

theorem counted_run (arrivals : List Arrival) (hmetered : ∀ a ∈ arrivals, a.Metered meter)
    (w : World) : Counted meter arrivals w := by
  induction arrivals generalizing w with
  | nil => constructor <;> simp [serveAll, visits]
  | cons a later ih =>
    obtain ⟨hfirst, hlater⟩ := List.forall_mem_cons.mp hmetered
    exact (counted_of_metered hfirst w).cons (ih hlater _)

/-- Whatever requests come to whichever dispatchers, and whatever the handlers behind the meter do.
The server errors are counted in full if and only if no panic goes through the meter. -/
theorem errors_counted (meter : String) (arrivals : List Arrival)
    (hmetered : ∀ a ∈ arrivals, a.Metered meter) (w : World) :
    Counted meter arrivals w ∧
      (((serveAll arrivals w).meters.get meter).serverErrors =
          (w.meters.get meter).serverErrors + (visits arrivals w).countP (fun v =>
            v.1.enters 1 v.2 && v.1.isAnswered Meter.isServerError v.2) ↔
        ∀ v ∈ visits arrivals w, v.1.unwinds 1 v.2 = false) := by
  have hcounted := counted_run arrivals hmetered w
  refine ⟨hcounted, ?_⟩
  rw [← hcounted.serverErrors, Nat.left_eq_add, List.countP_eq_zero]
  simp only [Bool.not_eq_true]

theorem errors_counted_of_failure :
    let router := (({} : Router).use (.recovery false)).use (.metrics "meter")
    let failing : Handler := .endpoint "fail" fun scope _ =>
      (.failed (.status 502 "upstream"), scope)
    let arrival (uri : String) : Arrival :=
      { dispatcher := .withConfig (router.register .get "/fail" failing).2 {}
        request := { method := .get, uri } }
    let arrivals := [arrival "/fail", arrival "/other"]
    (∀ a ∈ arrivals, a.Metered "meter") ∧ Counted "meter" arrivals {} ∧
      (serveAll arrivals {}).meters.get "meter" = ⟨1, 0, 1, [("/fail", 1)]⟩ := by
  intro router failing arrival arrivals
  have hfail : (arrival "/fail").lookup = .found
      ⟨⟨0, .get, "/fail", "fail", [.recovery false, .metrics "meter", failing]⟩, ⟨[]⟩⟩ := by
    have hpath : (arrival "/fail").request.path = "/fail" := by decide
    rw [lookup, hpath]
    rfl
  have hother : (arrival "/other").lookup = .notFound := by
    have hpath : (arrival "/other").request.path = "/other" := by decide
    rw [lookup, hpath]
    rfl
  have hmetered : ∀ a ∈ arrivals, a.Metered "meter" := by
    intro a hmem route hfound
    simp only [arrivals, List.mem_cons, List.not_mem_nil, or_false] at hmem
    rcases hmem with rfl | rfl
    · cases hfail.symm.trans hfound
      exact ⟨_, _, rfl, by simp [failing, Handler.Spares]⟩
    · cases hother.symm.trans hfound
  exact ⟨hmetered, (errors_counted "meter" arrivals hmetered {}).1, by decide +kernel⟩

/-- A request whose handler panics is answered with 500 and not counted. -/
theorem panic_uncounted :
    let router := (({} : Router).use (.recovery false)).use (.metrics "meter")
    let panicking : Handler := .endpoint "panic" fun scope _ => (.panicked .other, scope)
    let a : Arrival :=
      { dispatcher := .withConfig (router.register .get "/panic" panicking).2 {}
        request := { method := .get, uri := "/panic" } }
    (a.serve {}).1 = .answered (.error 500 "Internal Server Error") ∧ a.enters 1 {} = true ∧
      (a.serve {}).2.meters.get "meter" = ⟨1, 0, 0, [("/panic", 1)]⟩ :=
  ⟨rfl, rfl, rfl⟩

end Arrival

end RequestRouting

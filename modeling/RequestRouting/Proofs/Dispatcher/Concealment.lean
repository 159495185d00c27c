import RequestRouting.Proofs.Chain.Observation
import RequestRouting.Proofs.Dispatcher.Head
import RequestRouting.Proofs.Dispatcher.Identification

/-!
# What failures do not tell

Behind built-in middleware that exposes no details, one internal error is answered as any other is,
and where there is a recovery, as a panic is. Only what a handler has made of the method and the
identifier of the request may show in the answer.
-/

set_option autoImplicit false

namespace RequestRouting

open Chain

/-- An internal error, or a panic if those are caught. -/
def Outcome.IsFault (caught : Prop) : Outcome → Prop
  | .failed (.internal _) => True
  | .panicked _ => caught
  | _ => False

def Handler.Discreet : Handler → Prop
  | .recovery exposeDetails => exposeDetails = false
  | .endpoint _ _ => False
  | .custom _ _ => False
  | _ => True

/-- Methods of which both or neither are `HEAD`, and the same identifier if that is put on the
answer. -/
structure Context.Agrees (stamped : Prop) (c c' : Context) : Prop where
  head : c'.method = .head ↔ c.method = .head
  requestId : stamped → c'.requestId = c.requestId

/-- Services that always end with a fault. If this is caught, they leave contexts that agree where
they begin with the same and the meters that are seen show the same. -/
structure Service.FailsAlike (caught stamped : Prop) (seen : String → Prop)
    (serve serve' : Service) : Prop where
  first : ∀ scope gauges, (serve scope gauges).1.IsFault caught
  second : ∀ scope gauges, (serve' scope gauges).1.IsFault caught
  agree : caught → ∀ scope gauges gauges', gauges.AgreeOn seen gauges' →
    (serve scope gauges).2.context.Agrees stamped (serve' scope gauges').2.context

variable {caught stamped : Prop} {seen : String → Prop}

theorem Context.Agrees.of_eq {c c' : Context} (h : c' = c) : c.Agrees stamped c' :=
  ⟨by rw [h], fun _ => by rw [h]⟩

theorem Context.Agrees.respond {c c' : Context} (h : c.Agrees stamped c') (r r' : Response) :
    Context.Agrees stamped { c with response := r } { c' with response := r' } :=
  ⟨h.head, h.requestId⟩

def Response.fault : Response := .error 500 "Internal Server Error"

theorem Outcome.IsFault.answer {outcome : Outcome} (h : outcome.IsFault caught)
    (response : Response) : Recovery.answer false response outcome = .fault := by
  cases outcome with
  | ok => exact h.elim
  | failed error =>
    cases error with
    | internal cause => rfl
    | _ => exact h.elim
  | panicked payload => rfl

theorem Outcome.IsFault.conclude {outcome : Outcome} (h : outcome.IsFault caught)
    (hcaught : ¬ caught) (after : Execution) :
    (Dispatcher.conclude outcome after).1.answer = .ok .fault := by
  cases outcome with
  | ok => exact h.elim
  | failed error =>
    cases error with
    | internal cause => rfl
    | _ => exact h.elim
  | panicked payload => exact absurd h hcaught

section

variable {advance : Step} {e : Execution} {outcome : Outcome} {after : Execution}

theorem Recovery.run_of_fault (h : outcome.IsFault caught) (hcame : advance e = (outcome, after)) :
    ∃ last, Recovery.run false advance e = (.ok, last) ∧
      last.context = { after.context with response := .fault } := by
  refine ⟨_, Prod.ext run_ok rfl, ?_⟩
  rw [run_context, hcame, h.answer]

theorem RequestIdHeader.run_of_came (hcame : advance (adopt e) = (outcome, after)) :
    ∃ last response,
      RequestIdHeader.run advance e = (outcome, last) ∧
        last.context = { after.context with response := response } := by
  obtain ⟨response, hcontext⟩ : Chain.HandsOn advance (adopt e) (run advance e) := handsOn e
  have houtcome : (run advance e).1 = outcome := by rw [run_outcome, hcame]
  refine ⟨(run advance e).2, response, Prod.ext houtcome rfl, ?_⟩
  rw [hcontext, hcame]

end

namespace Chain

/-- A recovery stands behind a handler that puts the identifier of the request on its answer. -/
def Stamps (middleware : List Handler) : Prop :=
  ∃ front behind, middleware = front ++ .requestId :: behind ∧ .recovery false ∈ behind

/-- Two ends of which the client will be told the same. A fault does not come to the front of a
recovery, and without a recovery there is no answer but to a fault. -/
inductive Conceals (caught stamped : Prop) (handlers : List Handler) :
    Outcome × Execution → Outcome × Execution → Prop where
  | answered {after after' : Execution} (hclosed : .recovery false ∈ handlers)
      (hagree : after.context.Agrees stamped after'.context)
      (hsame : after'.context.response = after.context.response) :
      Conceals caught stamped handlers (.ok, after) (.ok, after')
  | fault {outcome outcome' : Outcome} {after after' : Execution}
      (hopen : .recovery false ∉ handlers) (hfault : outcome.IsFault caught)
      (hfault' : outcome'.IsFault caught)
      (hagree : caught → after.context.Agrees stamped after'.context) :
      Conceals caught stamped handlers (outcome, after) (outcome', after')

variable {handlers : List Handler} {h : Handler} {result result' : Outcome × Execution}

theorem Stamps.cons (hstamps : Stamps handlers) (h : Handler) : Stamps (h :: handlers) := by
  obtain ⟨front, behind, rfl, hclosed⟩ := hstamps
  exact ⟨h :: front, behind, rfl, hclosed⟩

theorem Conceals.handOn (hconceals : Conceals caught stamped handlers result result')
    (hopen : .recovery false ≠ h) {front front' : Outcome × Execution}
    (hfront : Concur Eq Eq seen result front) (hfront' : Concur Eq Eq seen result' front') :
    Conceals caught stamped (h :: handlers) front front' := by
  obtain ⟨outcome, last⟩ := front
  obtain ⟨outcome', last'⟩ := front'
  obtain ⟨hcame, hlast⟩ := hfront
  obtain ⟨hcame', hlast'⟩ := hfront'
  dsimp only at hcame hcame'
  have hcontext : last.context = result.2.context := congrArg Scope.context hlast.scope.symm
  have hcontext' : last'.context = result'.2.context := congrArg Scope.context hlast'.scope.symm
  subst hcame hcame'
  cases hconceals with
  | answered hclosed hagree hsame =>
    refine .answered (List.mem_cons_of_mem h hclosed) ?_ ?_
    · rw [hcontext, hcontext']
      exact hagree
    · rw [hcontext, hcontext']
      exact hsame
  | fault hbehind hfault hfault' hagree =>
    refine .fault (List.not_mem_cons_of_ne_of_not_mem hopen hbehind) hfault hfault' ?_
    rw [hcontext, hcontext']
    exact hagree

section

variable {advance advance' : Step} {e e' : Execution}

theorem Conceals.recovery (hcaught : caught)
    (h : Conceals caught stamped handlers (advance e) (advance' e')) :
    Conceals caught stamped (.recovery false :: handlers) (Recovery.run false advance e)
      (Recovery.run false advance' e') := by
  generalize hcame : advance e = result, hcame' : advance' e' = result' at h
  cases h with
  | answered hclosed hagree hsame =>
    rw [Recovery.run, Recovery.run, hcame, hcame']
    exact .answered List.mem_cons_self hagree hsame
  | fault hopen hfault hfault' hagree =>
    obtain ⟨last, hrun, hcontext⟩ := Recovery.run_of_fault hfault hcame
    obtain ⟨last', hrun', hcontext'⟩ := Recovery.run_of_fault hfault' hcame'
    rw [hrun, hrun']
    refine .answered List.mem_cons_self ?_ ?_
    · rw [hcontext, hcontext']
      exact (hagree hcaught).respond _ _
    · rw [hcontext, hcontext']

theorem Conceals.requestId (hstamped : .recovery false ∈ handlers → stamped)
    (h : Conceals caught stamped handlers (advance (RequestIdHeader.adopt e))
      (advance' (RequestIdHeader.adopt e'))) :
    Conceals caught stamped (.requestId :: handlers) (RequestIdHeader.run advance e)
      (RequestIdHeader.run advance' e') := by
  generalize hcame : advance (RequestIdHeader.adopt e) = result,
    hcame' : advance' (RequestIdHeader.adopt e') = result' at h
  cases h with
  | answered hclosed hagree hsame =>
    rw [RequestIdHeader.run, RequestIdHeader.run, hcame, hcame']
    refine .answered (List.mem_cons_of_mem _ hclosed) (hagree.respond _ _) ?_
    exact congrArg₂ (fun (response : Response) (id : RequestId) =>
      response.setHeader RequestId.headerName id.text) hsame (hagree.requestId (hstamped hclosed))
  | fault hopen hfault hfault' hagree =>
    obtain ⟨last, response, hrun, hcontext⟩ := RequestIdHeader.run_of_came hcame
    obtain ⟨last', response', hrun', hcontext'⟩ := RequestIdHeader.run_of_came hcame'
    rw [hrun, hrun']
    have hother : Handler.recovery false ≠ .requestId := by rintro ⟨⟩
    refine .fault (List.not_mem_cons_of_ne_of_not_mem hother hopen) hfault hfault' fun hcaught => ?_
    rw [hcontext, hcontext']
    exact (hagree hcaught).respond _ _

theorem conceals_run (hdiscreet : h.Discreet) (hcaught : h = .recovery false → caught)
    (hstamped : h = .requestId → .recovery false ∈ handlers → stamped) (length length' : Nat)
    {index : Nat}
    (hbehind : ∀ call call', Ready index call → call.Parallel Eq Eq seen call' →
      Conceals caught stamped handlers (advance call) (advance' call'))
    (hready : Ready index e) (he : e.Parallel Eq Eq seen e') :
    Conceals caught stamped (h :: handlers) (h.run length advance e)
      (h.run length' advance' e') := by
  have hobserved (hobserves : h.Observes fun _ => False) {call call' : Execution}
      (hcall : h.calls length advance e = [call]) (hcall' : h.calls length' advance' e' = [call'])
      (hcalls : call.Parallel Eq Eq seen call') : Conceals caught stamped (h :: handlers)
        (h.run length advance e) (h.run length' advance' e') := by
    obtain ⟨_, honly, hentered, hrun⟩ := hobserves.run length advance e
    obtain ⟨_, honly', -, hrun'⟩ := hobserves.run length' advance' e'
    obtain rfl := List.singleton_inj.mp (hcall.symm.trans honly)
    obtain rfl := List.singleton_inj.mp (hcall'.symm.trans honly')
    refine (hbehind call call' (hready.of_parallel hentered) hcalls).handOn ?_ hrun hrun'
    rintro rfl
    exact hobserves
  cases h with
  | recovery exposeDetails =>
    obtain rfl : exposeDetails = false := hdiscreet
    exact (hbehind e e' hready he).recovery (hcaught rfl)
  | tracing => exact hobserved trivial rfl rfl (he.log _ _)
  | requestId =>
    exact (hbehind _ _ hready.adopt (he.adopt Scope.aside_eq)).requestId (hstamped rfl)
  | metrics meter => exact hobserved id rfl rfl (he.count Scope.aside_eq meter)
  | endpoint name serve => exact hdiscreet.elim
  | custom name behaviour => exact hdiscreet.elim

theorem Conceals.leave (h : Conceals caught stamped handlers result result') (index : Nat) :
    Conceals caught stamped handlers (result.1, Chain.leave index result.1 result.2)
      (result'.1, Chain.leave index result'.1 result'.2) := by
  cases h with
  | answered hclosed hagree hsame =>
    refine .answered hclosed ?_ ?_
    · rw [leave_context, leave_context]
      exact hagree
    · rw [leave_context, leave_context]
      exact hsame
  | fault hopen hfault hfault' hagree =>
    refine .fault hopen hfault hfault' ?_
    rw [leave_context, leave_context]
    exact hagree

end

def AnswerAlike (result result' : Outcome × Execution) : Prop :=
  ∃ response, (Dispatcher.conclude result.1 result.2).1.answer = .ok response ∧
    (Dispatcher.conclude result'.1 result'.2).1.answer = .ok response

theorem answer_of_agrees {after after' : Execution}
    (h : after.context.Agrees stamped after'.context)
    (hsame : after'.context.response = after.context.response) :
    AnswerAlike (.ok, after) (.ok, after') := by
  refine ⟨(Dispatcher.withoutBody after).context.response, rfl, ?_⟩
  show Except.ok (Dispatcher.withoutBody after').context.response = _
  rw [Dispatcher.withoutBody, Dispatcher.withoutBody]
  simp only [h.head]
  split
  · exact congrArg (fun response => Except.ok { response with body := .null }) hsame
  · exact congrArg Except.ok hsame

theorem Conceals.answer (h : Conceals caught stamped handlers result result')
    (hopen : caught → .recovery false ∈ handlers) : AnswerAlike result result' := by
  cases h with
  | answered hclosed hagree hsame => exact answer_of_agrees hagree hsame
  | fault hopened hfault hfault' hagree =>
    have hcaught : ¬ caught := fun hcaught => hopened (hopen hcaught)
    exact ⟨.fault, hfault.conclude hcaught _, hfault'.conclude hcaught _⟩

theorem answer_of_cancelled {chain chain' : List Handler} (hchain : chain ≠ [])
    (hchain' : chain' ≠ []) {e e' : Execution} (hstart : e.state ≠ .completed)
    (hcursor : e.cursor = 0) (hcancelled : e.context.isCancelled = true)
    (he : e.Parallel Eq Eq seen e') : AnswerAlike (advance chain e) (advance chain' e') := by
  have hcancelled' := (Scope.aside_eq.cancelled he.scope).trans hcancelled
  rw [advance_of_cancelled hchain hstart hcursor hcancelled, advance_of_cancelled hchain'
    (he.state ▸ hstart) (he.cursor ▸ hcursor) hcancelled']
  have hcontext : (skip chain'.length e').context = (skip chain.length e).context :=
    congrArg Scope.context (he.skip Scope.aside_eq _ _).scope.symm
  have hagree : (skip chain.length e).context.Agrees True (skip chain'.length e').context :=
    .of_eq hcontext
  exact answer_of_agrees hagree (congrArg Context.response hcontext)

section

variable {middleware : List Handler} {serve serve' : Service} {e e' : Execution}
  (name name' : String) (hdiscreet : ∀ h ∈ middleware, h.Discreet)
  (hcaught : .recovery false ∈ middleware → caught) (hstamped : Stamps middleware → stamped)
  (hfails : Service.FailsAlike caught stamped seen serve serve')

include hdiscreet hcaught hstamped hfails

/-- By induction on the middleware that is still in front of the endpoints. -/
theorem conceals_ready (length length' : Nat) {index : Nat} (hready : Ready index e)
    (he : e.Parallel Eq Eq seen e') :
    Conceals caught stamped middleware
      (advanceFrom length (middleware ++ [.endpoint name serve]) index e)
      (advanceFrom length' (middleware ++ [.endpoint name' serve']) index e') := by
  have hready' : Ready index e' := hready.of_parallel he
  induction middleware generalizing index e e' with
  | nil =>
    rw [List.nil_append, List.nil_append, hready.advanceFrom_eq, hready'.advanceFrom_eq]
    have hscope : (enter (.endpoint name' serve') e').scope =
        (enter (.endpoint name serve) e).scope := he.scope.symm
    refine (Conceals.fault List.not_mem_nil (hfails.first _ _) (hfails.second _ _)
      fun hcaught => ?_).leave index
    simp only [Execution.context, hscope]
    exact hfails.agree hcaught _ _ _ he.gauges
  | cons h rest ih =>
    obtain ⟨hfirst, hrest⟩ := List.forall_mem_cons.mp hdiscreet
    rw [List.cons_append, List.cons_append, hready.advanceFrom_eq, hready'.advanceFrom_eq]
    have hentered : (enter h e).Parallel Eq Eq seen (enter h e') :=
      .entered he.scope (congrArg (· + 1) he.cursor) he.gauges h h
    have hclosing : h = .recovery false → caught := by
      rintro rfl
      exact hcaught List.mem_cons_self
    have hstamping : h = .requestId → .recovery false ∈ rest → stamped := by
      rintro rfl hclosed
      exact hstamped ⟨[], rest, rfl, hclosed⟩
    refine (conceals_run hfirst hclosing hstamping length length' ?_ (hready.enter h)
      hentered).leave index
    intro call call' hcall hcalls
    exact ih hrest (fun hmem => hcaught (List.mem_cons_of_mem h hmem))
      (fun hstamps => hstamped (hstamps.cons h)) hcall hcalls (hcall.of_parallel hcalls)

theorem conceals_advance (hopen : caught → .recovery false ∈ middleware)
    (hstart : e.state ≠ .completed) (hcursor : e.cursor = 0) (he : e.Parallel Eq Eq seen e') :
    AnswerAlike (advance (middleware ++ [.endpoint name serve]) e)
      (advance (middleware ++ [.endpoint name' serve']) e') := by
  cases hcancelled : e.context.isCancelled with
  | false =>
    exact (conceals_ready name name' hdiscreet hcaught hstamped hfails _ _
      ⟨hstart, hcursor, hcancelled⟩ he).answer hopen
  | true => exact answer_of_cancelled (by simp) (by simp) hstart hcursor hcancelled he

end

end Chain

namespace Dispatcher

structure DifferAtEnd (request : Request) (middleware : List Handler) (endpoint endpoint' : Handler)
    (d d' : Dispatcher) (route route' : RouteMatch) : Prop where
  found : d.router.load.resolve request.method request.path = .found route
  found' : d'.router.load.resolve request.method request.path = .found route'
  chain : route.entry.chain = middleware ++ [endpoint]
  chain' : route'.entry.chain = middleware ++ [endpoint']
  pattern : route'.entry.pattern = route.entry.pattern
  params : route'.params = route.params
  signal : d'.signal = d.signal

/-- For any middleware, recoveries in any number among it or not, and any services behind it that
always fail. The services may read meters on which the same has been left. -/
theorem faults_concealed {d d' : Dispatcher} {request : Request} (minted : RequestId)
    {seen : String → Prop} {middleware : List Handler}
    (hdiscreet : ∀ h ∈ middleware, h.Discreet) {name name' : String} {serve serve' : Service}
    (hfails : Service.FailsAlike (.recovery false ∈ middleware)
      (Stamps middleware) seen serve serve') {route route' : RouteMatch}
    (hdiffer : DifferAtEnd request middleware (.endpoint name serve) (.endpoint name' serve') d d'
      route route') {w w' : World} (hnotes : w'.notes = w.notes)
    (hmeters : Gauges.AgreeOn seen w.meters.get w'.meters.get) :
    ∃ response, (d.handle request minted w).1 = .ok response ∧
      (d'.handle request minted w').1 = .ok response := by
  obtain ⟨hfound, hfound', hchain, hchain', hpattern, hparams, hsignal⟩ := hdiffer
  let a : Arrival := ⟨d, request, d.signal, minted⟩
  let a' : Arrival := ⟨d', request, d'.signal, minted⟩
  have hstart : (a.start w route).Parallel Eq Eq seen (a'.start w' route') := by
    refine ⟨?_, rfl, rfl, hmeters⟩
    simp only [a, a', Arrival.start, start, contextOf, hpattern, hparams, hsignal, hnotes]
  have halike := Chain.conceals_advance name name' hdiscreet id id hfails id
    (nofun : (a.start w route).state ≠ .completed) rfl hstart
  rw [← hchain, ← hchain'] at halike
  obtain ⟨response, hanswer, hanswer'⟩ := halike
  have hlookup : a.lookup = .found route := hfound
  have hlookup' : a'.lookup = .found route' := hfound'
  refine ⟨response, ?_, ?_⟩
  · rw [handle_eq, ← hanswer]
    exact congrArg DispatchResult.answer (Arrival.serve_of_found hlookup).1
  · rw [handle_eq, ← hanswer']
    exact congrArg DispatchResult.answer (Arrival.serve_of_found hlookup').1

theorem faults_concealed_of_panic :
    let failing : Service := fun scope _ => (.failed (.internal "no disk"), scope)
    let panicking : Service := fun scope _ => (.panicked (.text "no memory"), scope)
    let middleware : List Handler := [.requestId, .recovery false, .tracing, .metrics "meter"]
    let router : Router := middleware.foldl Router.use {}
    let d (serve : Service) : Dispatcher :=
      withConfig (router.register .get "/x" (.endpoint "x" serve)).2 {}
    let route (serve : Service) : RouteMatch :=
      ⟨⟨0, .get, "/x", "x", middleware ++ [.endpoint "x" serve]⟩, ⟨[]⟩⟩
    let request : Request := { method := .get, uri := "/x" }
    (∀ h ∈ middleware, h.Discreet) ∧
      Service.FailsAlike (.recovery false ∈ middleware) (Stamps middleware) (fun _ => True) failing
        panicking ∧
      DifferAtEnd request middleware (.endpoint "x" failing) (.endpoint "x" panicking) (d failing)
        (d panicking) (route failing) (route panicking) ∧
      ∃ response, ((d failing).handle request ⟨0⟩ {}).1 = .ok response ∧
        ((d panicking).handle request ⟨0⟩ {}).1 = .ok response := by
  intro failing panicking middleware router d route request
  have hdiscreet : ∀ h ∈ middleware, h.Discreet := by simp [middleware, Handler.Discreet]
  have hfails : Service.FailsAlike (.recovery false ∈ middleware) (Stamps middleware)
      (fun _ => True) failing panicking :=
    ⟨fun _ _ => trivial, fun _ _ => by simp [panicking, middleware, Outcome.IsFault],
      fun _ _ _ _ _ => .of_eq rfl⟩
  have hpath : request.path = "/x" := by decide
  have hfound (serve : Service) :
      (d serve).router.load.resolve request.method request.path = .found (route serve) := by
    rw [hpath]
    rfl
  have hdiffer : DifferAtEnd request middleware (.endpoint "x" failing) (.endpoint "x" panicking)
      (d failing) (d panicking) (route failing) (route panicking) :=
    ⟨hfound failing, hfound panicking, rfl, rfl, rfl, rfl, rfl⟩
  exact ⟨hdiscreet, hfails, hdiffer, faults_concealed ⟨0⟩ hdiscreet hfails hdiffer rfl (.refl _ _)⟩

/-- What a handler leaves in the context before it fails: the method `HEAD`, so that the answer has
no body, and another identifier, with which the answer is then stamped. -/
theorem faults_told_by_context :
    let failing (cause : String) (change : Context → Context) : Handler :=
      .endpoint "x" fun scope _ => (.failed (.internal cause), scope.mapContext change)
    let answer (middleware : List Handler) (endpoint : Handler) :=
      let d := withConfig ((middleware.foldl Router.use {}).register .get "/x" endpoint).2 {}
      (d.handle { method := .get, uri := "/x" } ⟨0⟩ {}).1
    let body := Json.object [("error", .string "Internal Server Error")]
    let type := ("content-type", "application/json")
    let stamp (id : Nat) := ("x-request-id", (⟨id⟩ : RequestId).text)
    answer [.recovery false] (failing "no disk" id) = .ok ⟨500, [type], body⟩ ∧
      answer [.recovery false] (failing "no memory" fun c => { c with method := .head }) =
        .ok ⟨500, [type], .null⟩ ∧
      answer [.requestId, .recovery false] (failing "no disk" id) =
        .ok ⟨500, [type, stamp 0], body⟩ ∧
      answer [.requestId, .recovery false] (failing "no memory" fun c =>
          { c with requestId := ⟨1⟩ }) = .ok ⟨500, [type, stamp 1], body⟩ ∧
      body ≠ .null ∧ stamp 0 ≠ stamp 1 :=
  ⟨rfl, rfl, rfl, rfl, nofun, by decide⟩

end Dispatcher

end RequestRouting

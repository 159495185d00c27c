import RequestRouting.Dispatcher
import RequestRouting.Echo
import RequestRouting.Proofs.Chain.Timeline

/-!
# Answers to `HEAD`

A route that is found for `HEAD`, its own or that of `GET`, is answered without a body if its chain
ends well. Requests that are refused, and those whose handlers fail, get the body of the error.
-/

set_option autoImplicit false

namespace RequestRouting

/-- The method of the context stays as it is. -/
def Context.KeepsMethod (c later : Context) : Prop := later.method = c.method

theorem Context.KeepsMethod.lasting : Context.Lasting Context.KeepsMethod :=
  ⟨fun _ => rfl, fun _ _ => rfl, fun _ _ => rfl⟩

def Handler.KeepsMethod (handler : Handler) : Prop := handler.Keeps Context.KeepsMethod

theorem HandlerError.response_body (error : HandlerError) :
    ∃ message, error.response.body = .object [("error", .string message)] := by
  cases error <;> exact ⟨_, rfl⟩

def DispatchResult.answer : DispatchResult → Except PanicPayload Response
  | .answered response => .ok response
  | .refused error => .ok error.response
  | .panicked payload => .error payload

namespace Dispatcher

variable (d : Dispatcher) (request : Request) (minted : RequestId) (w : World)

def ran (route : RouteMatch) : Outcome × Execution :=
  Chain.advance route.entry.chain
    (start { w with
        journal := w.journal ++ d.router.load.resolveEvents request.method request.path }
      (contextOf request route minted d.signal))

inductive Answers : Except PanicPayload Response → Prop where
  | served {route : RouteMatch} {last : Execution}
      (hfound : d.router.load.resolve request.method request.path = .found route)
      (hran : d.ran request minted w route = (.ok, last)) :
      Answers (.ok (withoutBody last).context.response)
  | failed {route : RouteMatch} {error : HandlerError} {last : Execution}
      (hfound : d.router.load.resolve request.method request.path = .found route)
      (hran : d.ran request minted w route = (.failed error, last)) :
      Answers (.ok error.response)
  | panicked {route : RouteMatch} {payload : PanicPayload} {last : Execution}
      (hfound : d.router.load.resolve request.method request.path = .found route)
      (hran : d.ran request minted w route = (.panicked payload, last)) :
      Answers (.error payload)
  | notAllowed {allowed : AllowedMethods}
      (hlookup : d.router.load.resolve request.method request.path = .methodNotAllowed allowed) :
      Answers (.ok ((Response.error 405 "Method Not Allowed").setHeader "allow" allowed.header))
  | notFound (hlookup : d.router.load.resolve request.method request.path = .notFound) :
      Answers (.ok (.error 404 "Not Found"))

theorem dispatch_found {route : RouteMatch} {outcome : Outcome} {last : Execution}
    (hfound : d.router.load.resolve request.method request.path = .found route)
    (hran : d.ran request minted w route = (outcome, last)) :
    (d.dispatch request minted w).1 = (conclude outcome last).1 := by
  rw [ran] at hran
  unfold dispatch dispatchWith
  simp only [hfound, hran]

theorem handle_eq :
    (d.handle request minted w).1 = (d.dispatch request minted w).1.answer := by
  unfold handle
  rcases d.dispatch request minted w with ⟨_ | _ | _, _⟩ <;> rfl

theorem handle_answers : d.Answers request minted w (d.handle request minted w).1 := by
  cases hlookup : d.router.load.resolve request.method request.path with
  | notFound =>
    have hdispatch : (d.dispatch request minted w).1 =
        .refused (.notFound request.method request.path) := by
      unfold dispatch dispatchWith
      simp only [hlookup]
    rw [handle_eq, hdispatch]
    exact .notFound hlookup
  | methodNotAllowed allowed =>
    have hdispatch : (d.dispatch request minted w).1 =
        .refused (.methodNotAllowed request.method request.path allowed) := by
      unfold dispatch dispatchWith
      simp only [hlookup]
    rw [handle_eq, hdispatch]
    exact .notAllowed hlookup
  | found route =>
    rcases hran : d.ran request minted w route with ⟨outcome, last⟩
    have hdispatch := d.dispatch_found request minted w hlookup hran
    rw [handle_eq, hdispatch]
    cases outcome with
    | ok => exact .served hlookup hran
    | failed error => exact .failed hlookup hran
    | panicked payload => exact .panicked hlookup hran

def Serves : Prop := ∃ route last,
  d.router.load.resolve request.method request.path = .found route ∧
    d.ran request minted w route = (.ok, last)

/-- Only what is served is answered without a body. -/
structure HeadAnswered : Prop where
  answers : d.Answers request minted w (d.handle request minted w).1
  served : d.Serves request minted w →
    ∃ response, (d.handle request minted w).1 = .ok response ∧ response.body = .null
  refused : ¬ d.Serves request minted w → ∀ response, (d.handle request minted w).1 = .ok response →
    ∃ message, response.body = .object [("error", .string message)]

theorem withoutBody_body {e : Execution} (hmethod : e.context.method = .head) :
    (withoutBody e).context.response.body = .null := by
  rw [withoutBody, if_pos hmethod]
  rfl

/-- Of every `HEAD` request, if the handlers of its route keep the method in the context. -/
theorem head_answered (hhead : request.method = .head)
    (hkeeps : ∀ route, d.router.load.resolve .head request.path = .found route →
      ∀ h ∈ route.entry.chain, h.KeepsMethod) : d.HeadAnswered request minted w where
  answers := d.handle_answers request minted w
  served := by
    rintro ⟨route, last, hfound, hran⟩
    have hmethod : last.context.method = request.method := by
      have hkept := Chain.advance_keeps Context.KeepsMethod.lasting
        (fun hfirst hsecond => hsecond.trans hfirst) (hkeeps route (hhead ▸ hfound))
        (start { w with
          journal := w.journal ++ d.router.load.resolveEvents request.method request.path }
          (contextOf request route minted d.signal))
      rw [← ran, hran] at hkept
      exact hkept
    refine ⟨(withoutBody last).context.response, ?_, withoutBody_body (hmethod.trans hhead)⟩
    rw [handle_eq, d.dispatch_found request minted w hfound hran]
    rfl
  refused hserves response hresponse := by
    have hanswers := d.handle_answers request minted w
    rw [hresponse] at hanswers
    cases hanswers with
    | served hfound hran => exact absurd ⟨_, _, hfound, hran⟩ hserves
    | @failed route error last hfound hran => exact error.response_body
    | notAllowed hlookup => exact ⟨_, rfl⟩
    | notFound hlookup => exact ⟨_, rfl⟩

theorem head_answered_of_get :
    let d := withConfig (({} : Router).register .get "/items/:id" (Echo.handler "show")).2 {}
    let request : Request := { method := .head, uri := "/items/5" }
    d.HeadAnswered request ⟨0⟩ {} ∧ d.Serves request ⟨0⟩ {} := by
  intro d request
  have hpath : request.path = "/items/5" := by decide
  have hfound : d.router.load.resolve .head request.path =
      .found ⟨⟨0, .get, "/items/:id", "show", [Echo.handler "show"]⟩, ⟨[("id", "5")]⟩⟩ := by
    rw [hpath]
    rfl
  have hkeeps : ∀ route, d.router.load.resolve .head request.path = .found route →
      ∀ h ∈ route.entry.chain, h.KeepsMethod := by
    intro route hroute h hmem
    rw [hfound] at hroute
    cases hroute
    rw [List.mem_singleton.1 hmem]
    exact fun scope _ => rfl
  exact ⟨d.head_answered request ⟨0⟩ {} rfl hkeeps, _, _, hfound, rfl⟩

/-- No route, a route of another method only, and a handler that fails. -/
theorem head_refused_with_body :
    let failing : Handler := .endpoint "fail" fun scope _ => (.failed (.internal "lost"), scope)
    let router := (({} : Router).register .post "/items" (Echo.handler "add")).2
    let d := withConfig (router.register .get "/fail" failing).2 {}
    let answer (uri : String) := (d.handle { method := .head, uri } ⟨0⟩ {}).1
    answer "/nope" = .ok (.error 404 "Not Found") ∧
      answer "/items" = .ok ((Response.error 405 "Method Not Allowed").setHeader "allow" "POST") ∧
      answer "/fail" = .ok (.error 500 "Internal Server Error") ∧
      ∀ status message, (Response.error status message).body ≠ .null := by
  intro failing router d answer
  have hallow : (AllowedMethods.ofMethods true [.post]).header = "POST" := by
    have hpost : AllowedMethods.withImplied true [.post] = [.post] := by decide
    rw [AllowedMethods.ofMethods, hpost, List.mergeSort_singleton]
    rfl
  refine ⟨rfl, ?_, rfl, fun _ _ hbody => by cases hbody⟩
  rw [← hallow]
  rfl

end Dispatcher

end RequestRouting

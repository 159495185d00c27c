import RequestRouting.Proofs.Dispatcher.Recovered
import RequestRouting.Proofs.Headers

/-!
# Answers with the identifier

The middleware that adopts the identifier of a request also puts it on the response. A recovery in
front of it answers errors and panics with a response of its own, which has no such header: only
what ends well is answered with the identifier.
-/

set_option autoImplicit false

namespace RequestRouting

open ChainEvent

def Response.idHeaders (r : Response) : Headers :=
  r.headers.filter fun h => Text.sameName h.1 RequestId.headerName

theorem Response.idHeaders_error (status : Nat) (message : String) :
    (Response.error status message).idHeaders = [] := by
  have hname : Text.sameName "content-type" RequestId.headerName = false := by decide
  simp [idHeaders, Response.error, Response.json, hname]

theorem Recovery.idHeaders_answer {exposeDetails : Bool} {response : Response} {came : Outcome}
    (h : came ≠ .ok) : (answer exposeDetails response came).idHeaders = [] := by
  cases came with
  | ok => exact absurd rfl h
  | failed error => cases error <;> exact Response.idHeaders_error _ _
  | panicked payload => exact Response.idHeaders_error _ _

namespace RequestIdHeader

variable {advance : Step} {e : Execution}

theorem adopt_requestId (e : Execution) : (adopt e).context.requestId =
    RequestId.readOr e.context.requestId (e.context.header? RequestId.headerName) := by
  rw [adopt]
  cases hvalue : e.context.header? RequestId.headerName with
  | none => rfl
  | some value =>
    cases hread : RequestId.read value with
    | ok id => simp [hread, RequestId.readOr, Execution.mapContext, Execution.context,
        Scope.mapContext]
    | error invalid => simp [hread, RequestId.readOr, Execution.log, Execution.context]

theorem run_outcome : (run advance e).1 = (advance (adopt e)).1 := by
  rw [run]
  rcases advance (adopt e) with ⟨_ | error | payload, after⟩ <;> rfl

theorem run_idHeaders_of_returned (h : ∀ payload, (advance (adopt e)).1 ≠ .panicked payload) :
    (run advance e).2.context.response.idHeaders =
      [(RequestId.headerName, (advance (adopt e)).2.context.requestId.text)] := by
  rw [run]
  rcases hback : advance (adopt e) with ⟨_ | error | payload, after⟩
  · exact Headers.filter_set _ _ _
  · exact Headers.filter_set _ _ _
  · exact absurd (congrArg Prod.fst hback) (h payload)

theorem run_idHeaders (h : (advance (adopt e)).1 = .ok) :
    (run advance e).2.context.response.idHeaders =
      [(RequestId.headerName, (advance (adopt e)).2.context.requestId.text)] :=
  run_idHeaders_of_returned fun payload => by simp [h]

end RequestIdHeader

namespace Arrival

/-- The identifier in the request's header, or else the one that the host has given or that was
made. -/
def identifier (a : Arrival) : RequestId :=
  RequestId.readOr (a.request.requestId.getD a.minted)
    (a.request.headers.get? RequestId.headerName)

/-- How a request is answered whose identifier is adopted by the second handler of the chain. -/
structure Identified (a : Arrival) (w : World) (response : Response) : Prop where
  answered : (a.serve w).1 = .answered response
  adopted : ∀ call, ⟨called 1, call⟩ ∈ a.moments w → call.context.requestId = a.identifier
  came : ∃ came state last, ⟨resumed 1 came state, last⟩ ∈ a.moments w
  /-- The answer has the identifier if that is a good end, and no identifier otherwise. -/
  headers : ∀ came state last, ⟨resumed 1 came state, last⟩ ∈ a.moments w →
    response.idHeaders =
      if came = .ok then [(RequestId.headerName, last.context.requestId.text)] else []

theorem identified (a : Arrival) (w : World) (route : RouteMatch) (exposeDetails : Bool)
    (rest : List Handler) (hfound : a.lookup = .found route)
    (hchain : route.entry.chain = .recovery exposeDetails :: .requestId :: rest)
    (hlive : a.signal.isCancelled = false) : ∃ response, a.Identified w response := by
  obtain ⟨response, hanswered, hhead, -⟩ := answered_of_second (w := w) hfound hchain hlive rfl
  let behind := Chain.advanceFrom (rest.length + 2) rest 2
  let call := RequestIdHeader.adopt (a.second w route exposeDetails .requestId)
  have hcalled : ∀ c, ⟨called 1, c⟩ ∈ a.moments w ↔ c = call := by
    intro c
    rw [mem_moments_second hfound hchain hlive rfl rfl]
    simp [call]
  have hresumed : ∀ came state last, ⟨resumed 1 came state, last⟩ ∈ a.moments w ↔
      (came = (behind call).1 ∧ state = (behind call).2.state) ∧ last = (behind call).2 := by
    intro came state last
    rw [mem_moments_second hfound hchain hlive rfl rfl]
    simp [behind, call]
  have hheaders : response.idHeaders = (Recovery.answer exposeDetails
      (RequestIdHeader.run behind (a.second w route exposeDetails .requestId)).2.context.response
      (behind call).1).idHeaders := by
    rw [← RequestIdHeader.run_outcome]
    exact congrArg (fun head => head.2.filter fun h => Text.sameName h.1 RequestId.headerName)
      hhead
  refine ⟨response, hanswered, ?_, ⟨_, _, _, (hresumed _ _ _).mpr ⟨⟨rfl, rfl⟩, rfl⟩⟩, ?_⟩
  · intro c hc
    rw [(hcalled c).mp hc]
    exact RequestIdHeader.adopt_requestId _
  · intro came state last hback
    obtain ⟨⟨rfl, -⟩, rfl⟩ := (hresumed came state last).mp hback
    rw [hheaders]
    by_cases hok : (behind call).1 = .ok
    · rw [if_pos hok, hok, Recovery.answer, RequestIdHeader.run_idHeaders hok]
    · rw [if_neg hok, Recovery.idHeaders_answer hok]

theorem identified_of_header :
    let router := (({} : Router).use (.recovery false)).use .requestId
    let ending : Handler := .endpoint "end" fun scope _ => (.ok, scope)
    let a : Arrival :=
      { dispatcher := .withConfig (router.register .get "/" ending).2 {}
        request :=
          { method := .get
            uri := "/"
            headers := [("X-Request-ID", "01arz3ndektsv4rrffq69g5fav")] } }
    (∃ route, a.lookup = .found route ∧
      route.entry.chain = [.recovery false, .requestId, ending]) ∧
      a.signal.isCancelled = false ∧ (∃ response, a.Identified {} response) ∧
      a.identifier.text = "01ARZ3NDEKTSV4RRFFQ69G5FAV" := by
  intro router ending a
  have hpath : a.request.path = "/" := by decide
  have hfound : a.lookup = .found
      ⟨⟨0, .get, "/", "end", [.recovery false, .requestId, ending]⟩, ⟨[]⟩⟩ := by
    rw [lookup, hpath]
    rfl
  exact ⟨⟨_, hfound, rfl⟩, rfl, a.identified {} _ false [ending] hfound rfl rfl,
    by decide +kernel⟩

/-- An error and a panic, answered without an identifier. -/
theorem unidentified_failures :
    let router := (({} : Router).use (.recovery false)).use .requestId
    let failing : Handler := .endpoint "fail" fun scope _ => (.failed (.status 418 "short"), scope)
    let panicking : Handler := .endpoint "panic" fun scope _ => (.panicked .other, scope)
    let routes := ((router.register .get "/fail" failing).2.register .get "/panic" panicking).2
    let answer (uri : String) :=
      (({ dispatcher := .withConfig routes {}, request := { method := .get, uri } } : Arrival).serve
        {}).1
    answer "/fail" = .answered (.error 418 "short") ∧
      answer "/panic" = .answered (.error 500 "Internal Server Error") ∧
      ∀ status message, (Response.error status message).getHeader? RequestId.headerName = none :=
  ⟨rfl, rfl, fun _ _ => rfl⟩

end Arrival

end RequestRouting

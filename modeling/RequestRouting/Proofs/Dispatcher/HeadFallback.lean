import RequestRouting.Proofs.Chain.Parallel
import RequestRouting.Proofs.Dispatcher.Recovered
import RequestRouting.Proofs.Router.Registration

/-!
# `HEAD` in place of `GET`

Where a path has no route for `HEAD` but one for `GET`, both methods run the same chain. Handlers
that have nothing to do with the method cannot tell the two runs apart, and all that differs is the
body, which is left out of the answer to `HEAD`.
-/

set_option autoImplicit false

namespace RequestRouting

/-- The second scope has the second method in place of the first, and is otherwise the same. -/
def Scope.Renamed (method method' : Method) (s s' : Scope) : Prop :=
  s.context.method = method ∧ s' = s.mapContext fun c => { c with method := method' }

theorem Scope.aside_renamed (method method' : Method) :
    Scope.Aside (Scope.Renamed method method') where
  requestId h := by rw [h.2]; rfl
  headers h := by rw [h.2]; rfl
  response h := by rw [h.2]; rfl
  pattern h := by rw [h.2]; rfl
  cancelled h := by rw [h.2]; rfl
  respond h response := ⟨h.1, by rw [h.2]; rfl⟩
  identify h id := ⟨h.1, by rw [h.2]; rfl⟩

/-- The handler neither reads nor writes the method of the context: with any other method it does
the same, and leaves that method in the context. It may read the meters that are seen. -/
def Handler.IgnoresMethod (seen : String → Prop) (handler : Handler) : Prop :=
  ∀ method method', handler.Parallel (Scope.Renamed method method') Eq seen

def DispatchResult.withoutBody : DispatchResult → DispatchResult
  | .answered response => .answered { response with body := .null }
  | result => result

namespace Dispatcher

theorem conclude_renamed (outcome : Outcome) {e e' : Execution}
    (h : Scope.Renamed .get .head e.scope e'.scope) :
    (conclude outcome e').1 = (conclude outcome e).1.withoutBody := by
  obtain ⟨hget, hscope⟩ := h
  have hhead : e'.context.method = .head := by
    rw [Execution.context, hscope]
    rfl
  have hother : ¬ e.context.method = .head := by
    rw [Execution.context, hget]
    decide
  cases outcome with
  | ok =>
    simp only [conclude, withoutBody, if_pos hhead, if_neg hother, DispatchResult.withoutBody]
    simp only [Execution.mapContext, Execution.context, hscope]
    rfl
  | failed error => rfl
  | panicked payload => rfl

theorem resolve_of_get {r : Router} {path : String} {route : RouteMatch}
    (hfallback : r.headFallback = true) (hnone : r.search .head path = none)
    (hget : r.search .get path = some route) :
    r.resolve .get path = .found route ∧ r.resolve .head path = .found route :=
  ⟨r.resolve_eq_found_iff.mpr (.inl hget),
    r.resolve_eq_found_iff.mpr (.inr ⟨hnone, ⟨rfl, hfallback⟩, hget⟩)⟩

/-- Of any request, which may be cancelled, and whatever else was served before, if it has left the
same on the meters that the handlers read. -/
theorem head_of_get (d : Dispatcher) (request : Request) (signal : CancelSignal)
    (minted : RequestId) {seen : String → Prop} {route : RouteMatch}
    (hfallback : d.router.load.headFallback = true)
    (hnone : d.router.load.search .head request.path = none)
    (hget : d.router.load.search .get request.path = some route)
    (hignores : ∀ h ∈ route.entry.chain, h.IgnoresMethod seen) {w w' : World}
    (hnotes : w'.notes = w.notes) (hmeters : Gauges.AgreeOn seen w.meters.get w'.meters.get) :
    (d.dispatchWith { request with method := .head } signal minted w').1 =
      (d.dispatchWith { request with method := .get } signal minted w).1.withoutBody := by
  obtain ⟨hfound, hfound'⟩ := resolve_of_get hfallback hnone hget
  let a : Arrival := ⟨d, { request with method := .get }, signal, minted⟩
  let a' : Arrival := ⟨d, { request with method := .head }, signal, minted⟩
  have hstart : (a.start w route).Parallel (Scope.Renamed .get .head) Eq seen
      (a'.start w' route) := by
    refine ⟨⟨rfl, ?_⟩, rfl, rfl, hmeters⟩
    simp only [a, a', Arrival.start, start, contextOf, Scope.mapContext, hnotes]
    rfl
  obtain ⟨houtcome, hafter⟩ := Chain.parallel_advance (Scope.aside_renamed .get .head)
    (fun h hmem => hignores h hmem .get .head) _ _ hstart
  have hlookup : a.lookup = .found route := hfound
  have hlookup' : a'.lookup = .found route := hfound'
  show (a'.serve w').1 = (a.serve w).1.withoutBody
  rw [(Arrival.serve_of_found hlookup).1, (Arrival.serve_of_found hlookup').1, houtcome,
    conclude_renamed _ hafter.scope]

theorem head_of_get_item :
    let noting : Handler := .custom none
      (.read fun scope => .write (scope.note "noting" .null)
        (.advance fun outcome => .complete (.finish outcome)))
    let response : Response := .json 200 (.object [("id", .string "5")])
    let item : Handler := .endpoint "item" fun scope _ =>
      (.ok, scope.mapContext fun c => { c with response })
    let router := (({} : Router).use (.recovery false)).use noting
    let d := withConfig (router.register .get "/items/:id" item).2 {}
    let route : RouteMatch :=
      ⟨⟨0, .get, "/items/:id", "item", [.recovery false, noting, item]⟩, ⟨[("id", "5")]⟩⟩
    let request : Request := { method := .head, uri := "/items/5" }
    let answer (method : Method) := (d.dispatchWith { request with method } {} ⟨0⟩ {}).1
    (d.router.load.headFallback = true ∧ d.router.load.search .head request.path = none ∧
        d.router.load.search .get request.path = some route ∧
        ∀ h ∈ route.entry.chain, h.IgnoresMethod fun _ => True) ∧
      answer .head = (answer .get).withoutBody ∧
      answer .get = .answered response := by
  intro noting response item router d route request answer
  have hpath : request.path = "/items/5" := by decide
  have hnone : d.router.load.search .head request.path = none := by
    rw [hpath]
    rfl
  have hget : d.router.load.search .get request.path = some route := by
    rw [hpath]
    rfl
  have hignores : ∀ h ∈ route.entry.chain, h.IgnoresMethod fun _ => True := by
    intro h hmem method method'
    simp only [route, List.mem_cons, List.not_mem_nil, or_false] at hmem
    rcases hmem with rfl | rfl | rfl
    · trivial
    · refine .read fun s s' hs => .write ⟨hs.1, by rw [hs.2]; rfl⟩ ?_
      exact .advance fun outcome => .complete (.finish outcome)
    · exact fun s s' _ _ hs _ => ⟨rfl, hs.1, by rw [hs.2]; rfl⟩
  have hsame : answer .head = (answer .get).withoutBody :=
    d.head_of_get request {} ⟨0⟩ rfl hnone hget hignores rfl (.refl _ _)
  let a : Arrival := ⟨d, { request with method := .get }, {}, ⟨0⟩⟩
  have hfound : a.lookup = .found route := (resolve_of_get rfl hnone hget).1
  have hserved : answer .get = .answered response :=
    (Arrival.serve_of_found (w := {}) hfound).1
  exact ⟨⟨rfl, hnone, hget, hignores⟩, hsame, hserved⟩

end Dispatcher

end RequestRouting

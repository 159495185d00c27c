import RequestRouting.Proofs.Chain.Maintaining
import RequestRouting.Proofs.Dispatcher.Identification

/-!
# Answers that always carry the identifier

If the identifier is adopted in front of a recovery, whatever the handlers behind come to is a good
end by the time it is put on the response: no answer is without the identifier, and none has two.
-/

set_option autoImplicit false

namespace RequestRouting

open Chain

def Context.KeepsRequestId (c c' : Context) : Prop := c'.requestId = c.requestId

def Context.KeepsHeaders (c c' : Context) : Prop := c'.headers = c.headers

/-- The identifier is the adopted one, and if it may be adopted again, it is still in the
headers. -/
def Context.Adopted (again : Prop) (id : RequestId) (headers : Headers) (c : Context) : Prop :=
  c.requestId = id ∧ (again → c.headers = headers)

theorem RequestId.readOr_readOr (minted : RequestId) (s : Option String) :
    readOr (readOr minted s) s = readOr minted s := by
  cases s with
  | none => rfl
  | some text => cases hread : read text <;> simp [readOr, hread]

namespace RequestIdHeader

theorem adopt_headers (e : Execution) : (adopt e).context.headers = e.context.headers := by
  obtain ⟨id, hcontext⟩ := adopt_context e
  rw [hcontext]

theorem ready_adopt {index : Nat} {e : Execution} (h : Ready index e) : Ready index (adopt e) := by
  obtain ⟨id, hcontext⟩ := adopt_context e
  refine ⟨?_, (adopt_cursor e).trans h.cursor, ?_⟩
  · rw [adopt]
    split <;> exact h.running
  · rw [hcontext]
    exact h.live

end RequestIdHeader

theorem Handler.maintains_adopted {h : Handler} {again : Prop} {id : RequestId} {headers : Headers}
    (hid : h.Keeps Context.KeepsRequestId) (hheaders : again → h.Keeps Context.KeepsHeaders)
    (hagain : h = .requestId → again)
    (hread : RequestId.readOr id (headers.get? RequestId.headerName) = id) :
    h.Maintains (Context.Adopted again id headers) := by
  have hboth : h.Keeps fun c c' =>
      c.KeepsRequestId c' ∧ (again → c.KeepsHeaders c') := by
    by_cases hcan : again
    · exact (hid.and (hheaders hcan)).mono fun hc => ⟨hc.1, fun _ => hc.2⟩
    · exact hid.mono fun hc => ⟨hc, fun hagain => absurd hagain hcan⟩
  refine hboth.maintains (fun hc hadopted =>
    ⟨hc.1.trans hadopted.1, fun hcan => (hc.2 hcan).trans (hadopted.2 hcan)⟩) ?_
  rintro hsecond e ⟨hadopted, hsent⟩
  refine ⟨?_, fun hcan => (RequestIdHeader.adopt_headers e).trans (hsent hcan)⟩
  rw [RequestIdHeader.adopt_requestId, hadopted, Context.header?, hsent (hagain hsecond), hread]

namespace Arrival

/-- How a request is answered whose identifier is adopted by the first handler of the chain. -/
structure Stamped (a : Arrival) (w : World) (response : Response) : Prop where
  answered : (a.serve w).1 = .answered response
  headers : response.idHeaders = [(RequestId.headerName, a.identifier.text)]
  seen : ∀ m ∈ a.moments w, 0 < m.event.index → m.execution.context.requestId = a.identifier

/-- Whatever the handlers behind the recovery do, if they leave the identifier alone. A second
middleware of the kind adopts the same one again, unless the headers were exchanged. -/
theorem stamped (a : Arrival) (w : World) (route : RouteMatch) (exposeDetails : Bool)
    (rest : List Handler) (hfound : a.lookup = .found route)
    (hchain : route.entry.chain = .requestId :: .recovery exposeDetails :: rest)
    (hkeeps : ∀ h ∈ rest, h.Keeps Context.KeepsRequestId)
    (hheaders : .requestId ∈ rest → ∀ h ∈ rest, h.Keeps Context.KeepsHeaders)
    (hlive : a.signal.isCancelled = false) : ∃ response, a.Stamped w response := by
  let entered := Chain.enter .requestId (a.start w route)
  let behind := advanceFrom (rest.length + 2) (.recovery exposeDetails :: rest) 1
  let call := RequestIdHeader.adopt entered
  have hfirst : Ready 0 (a.start w route) := ready_start hlive
  have hsecond : Ready 1 call := RequestIdHeader.ready_adopt (hfirst.enter .requestId)
  have hok : (behind call).1 = .ok := by
    rw [show behind call = _ from hsecond.advanceFrom_eq, Handler.run]
    exact Recovery.run_ok
  have hcall : call.context.Adopted (.requestId ∈ rest) a.identifier a.request.headers :=
    ⟨RequestIdHeader.adopt_requestId entered, fun _ => RequestIdHeader.adopt_headers entered⟩
  have hmaintains : ∀ h ∈ Handler.recovery exposeDetails :: rest,
      h.Maintains (Context.Adopted (.requestId ∈ rest) a.identifier a.request.headers) := by
    refine List.forall_mem_cons.mpr ⟨trivial, fun h hmem => ?_⟩
    exact Handler.maintains_adopted (hkeeps h hmem) (fun hagain => hheaders hagain h hmem)
      (fun heq => heq ▸ hmem) (RequestId.readOr_readOr _ _)
  obtain ⟨hmoments, hback⟩ := advanceFrom_upholds (fun _ _ hc => hc) (rest.length + 2) hmaintains 1
    call hcall
  have hrun : (advance route.entry.chain (a.start w route)).1 = .ok ∧
      (advance route.entry.chain (a.start w route)).2.context.response =
        (RequestIdHeader.run behind entered).2.context.response := by
    rw [hchain, advance, List.length_cons, List.length_cons, hfirst.advanceFrom_eq]
    refine ⟨RequestIdHeader.run_outcome.trans hok, ?_⟩
    rw [leave_context]
    rfl
  obtain ⟨hserved, -⟩ := serve_of_found (w := w) hfound
  rw [hrun.1] at hserved
  refine ⟨_, hserved, ?_, fun m hm hplace => ?_⟩
  · have hhead := Dispatcher.withoutBody_head (advance route.entry.chain (a.start w route)).2
    rw [hrun.2] at hhead
    refine (congrArg (fun head => head.2.filter fun h =>
      Text.sameName h.1 RequestId.headerName) hhead).trans ?_
    refine (RequestIdHeader.run_idHeaders hok).trans ?_
    rw [hback.1]
  · rw [moments_of_found hfound, hchain] at hm
    exact (hmoments m ((hfirst.mem_moments_behind rfl (Nat.ne_of_gt hplace)).mp hm)).1

theorem stamped_of_duplicates :
    let router := (({} : Router).use .requestId).use (.recovery false)
    let twice : Handler := .endpoint "twice" fun scope _ => (.ok, scope.mapContext fun c =>
      { c with response := ⟨200, [("X-Request-Id", "a"), ("x-REQUEST-id", "b")], .null⟩ })
    let a : Arrival :=
      { dispatcher := .withConfig (router.register .get "/" twice).2 {}
        request :=
          { method := .get
            uri := "/"
            headers := [("X-Request-ID", "7"), ("x-request-id", "01ARZ3NDEKTSV4RRFFQ69G5FAV")]
            requestId := some ⟨7⟩ } }
    (∃ route, a.lookup = .found route ∧
      route.entry.chain = [.requestId, .recovery false, twice]) ∧
      (∀ h ∈ [twice], h.Keeps Context.KeepsRequestId) ∧ .requestId ∉ [twice] ∧
      a.signal.isCancelled = false ∧ (∃ response, a.Stamped {} response) ∧
      a.identifier.text = "00000000000000000000000007" := by
  intro router twice a
  have hpath : a.request.path = "/" := by decide
  have hfound : a.lookup = .found
      ⟨⟨0, .get, "/", "twice", [.requestId, .recovery false, twice]⟩, ⟨[]⟩⟩ := by
    rw [lookup, hpath]
    rfl
  have hkeeps : ∀ h ∈ [twice], h.Keeps Context.KeepsRequestId :=
    List.forall_mem_singleton.mpr fun _ _ => rfl
  have honce : Handler.requestId ∉ [twice] := by simp [twice]
  exact ⟨⟨_, hfound, rfl⟩, hkeeps, honce, rfl,
    a.stamped {} _ false [twice] hfound rfl hkeeps (fun hagain => absurd hagain honce) rfl,
    by decide +kernel⟩

end Arrival

end RequestRouting

import RequestRouting.Echo
import RequestRouting.Proofs.Chain.Observation
import RequestRouting.Proofs.Dispatcher.Head
import RequestRouting.Proofs.Dispatcher.Recovered

/-!
# Chains that echo

A chain of built-in middleware and echoes ends well, with the status of a blank response. Where it
has an echo, the body of the answer repeats the pattern and the parameters of the route.
-/

set_option autoImplicit false

namespace RequestRouting

namespace Json

variable {α : Type} {name : String} {value : α} {fields : List (String × α)}

theorem putField_perm (h : name ∉ fields.map (·.1)) :
    (putField name value fields).Perm ((name, value) :: fields) := by
  induction fields with
  | nil => exact .refl _
  | cons first rest ih =>
    obtain ⟨n, v⟩ := first
    rw [List.map_cons, List.mem_cons, not_or] at h
    obtain ⟨hne, hrest⟩ := h
    rw [putField, if_neg hne]
    split
    · exact .refl _
    · exact ((ih hrest).cons _).trans (.swap _ _ _)

theorem sortFields_perm (h : (fields.map (·.1)).Nodup) : (sortFields fields).Perm fields := by
  suffices hfrom : ∀ sorted : List (String × α), ((sorted ++ fields).map (·.1)).Nodup →
      (fields.foldl (fun sorted f => putField f.1 f.2 sorted) sorted).Perm (sorted ++ fields) from
    hfrom [] h
  clear h
  induction fields with
  | nil => exact fun sorted _ => by rw [List.append_nil]; exact .refl _
  | cons first rest ih =>
    intro sorted hnodup
    have hput : (putField first.1 first.2 sorted ++ rest).Perm (sorted ++ first :: rest) := by
      have hnew : first.1 ∉ sorted.map (·.1) := by
        rw [List.map_append, List.map_cons, List.nodup_middle, List.nodup_cons] at hnodup
        exact fun hmem => hnodup.1 (List.mem_append_left _ hmem)
      exact ((putField_perm hnew).append_right rest).trans List.perm_middle.symm
    exact (ih _ ((hput.map _).nodup_iff.mpr hnodup)).trans hput

theorem field?_ofFields {fields : List (String × Json)} {value : Json}
    (h : (fields.map (·.1)).Nodup) (hmem : (name, value) ∈ fields) :
    (ofFields fields).field? name = some value := by
  have hsorted := sortFields_perm h
  exact lookup_eq_some_of_nodup ((hsorted.map _).nodup_iff.mpr h) (hsorted.mem_iff.mpr hmem)

end Json

structure Echo.Repeats (body : Json) (pattern : String) (params : Params) : Prop where
  pattern : body.field? "pattern" = some (.string pattern)
  params : ∃ fields, body.field? "params" = some (.object fields) ∧
    fields.Perm (params.pairs.map fun p => (p.1, .string p.2))

theorem Echo.repeats_body (c : Context) (h : (c.params.pairs.map (·.1)).Nodup) :
    Repeats (body c) c.pattern c.params := by
  have hparams : (body c).field? "params" = some c.params.toJson :=
    Json.field?_ofFields (by simp) (by simp)
  refine ⟨Json.field?_ofFields (by simp) (by simp), _, hparams, Json.sortFields_perm ?_⟩
  rw [List.map_map]
  exact h

def Handler.Unfailing : Handler → Prop
  | .endpoint _ serve => serve = Echo.serve
  | .custom _ _ => False
  | _ => True

namespace Chain

structure Echoed (handlers : List Handler) (c : Context) (result : Outcome × Execution) : Prop where
  ended : result.1 = .ok
  method : result.2.context.method = c.method
  status : result.2.context.response.status = 200
  body : (∃ name, Echo.handler name ∈ handlers) → ∃ seen : Context,
    result.2.context.response.body = Echo.body seen ∧ seen.pattern = c.pattern ∧
      seen.params = c.params

variable {handlers rest : List Handler} {h : Handler} {index : Nat} {e : Execution}

theorem mem_behind (hecho : ∃ name, Echo.handler name ∈ h :: rest)
    (hother : ∀ name, Echo.handler name ≠ h) : ∃ name, Echo.handler name ∈ rest := by
  obtain ⟨name, hmem⟩ := hecho
  exact ⟨name, (List.mem_cons.mp hmem).resolve_left (hother name)⟩

theorem echoed_run (hunfailing : h.Unfailing) (length : Nat) {advance : Step}
    (hready : Ready index e) (hstatus : e.context.response.status = 200)
    (hbehind : ∀ call, Ready index call → call.context.response.status = 200 →
      Echoed rest call.context (advance call)) :
    Echoed (h :: rest) e.context (h.run length advance e) := by
  have hobserved (hobserves : h.Observes fun _ => False) :
      Echoed (h :: rest) e.context (h.run length advance e) := by
    obtain ⟨call, -, hcall, hrun⟩ := hobserves.run length advance e
    have hcontext : call.context = e.context := congrArg Scope.context hcall.scope.symm
    have hafter : (h.run length advance e).2.context = (advance call).2.context :=
      congrArg Scope.context hrun.execution.scope.symm
    have hechoed := hbehind call (hready.of_parallel hcall) (hcontext ▸ hstatus)
    rw [hcontext] at hechoed
    refine ⟨hrun.outcome.trans hechoed.ended, ?_, ?_, fun hecho => ?_⟩
    · rw [hafter, hechoed.method]
    · rw [hafter, hechoed.status]
    · rw [hafter]
      refine hechoed.body (mem_behind hecho ?_)
      rintro name rfl
      exact hobserves
  cases h with
  | recovery exposeDetails =>
    have hechoed := hbehind e hready hstatus
    have hafter : (Recovery.run exposeDetails advance e).2.context = (advance e).2.context := by
      rw [Recovery.run_context, hechoed.ended]
      rfl
    refine ⟨Recovery.run_ok, ?_, ?_, fun hecho => ?_⟩
    · rw [Handler.run, hafter, hechoed.method]
    · rw [Handler.run, hafter, hechoed.status]
    · rw [Handler.run, hafter]
      exact hechoed.body (mem_behind hecho (by rintro _ ⟨⟩))
  | tracing => exact hobserved trivial
  | requestId =>
    obtain ⟨id, hadopted⟩ := RequestIdHeader.adopt_context e
    have hechoed := hbehind (RequestIdHeader.adopt e) hready.adopt (by rw [hadopted]; exact hstatus)
    rw [Handler.run, RequestIdHeader.run]
    generalize advance (RequestIdHeader.adopt e) = behind at hechoed ⊢
    obtain ⟨outcome, after⟩ := behind
    obtain rfl : outcome = .ok := hechoed.ended
    rw [hadopted] at hechoed
    refine ⟨rfl, hechoed.method, hechoed.status, fun hecho => ?_⟩
    exact hechoed.body (mem_behind hecho (by rintro _ ⟨⟩))
  | metrics meter => exact hobserved id
  | endpoint name serve =>
    obtain rfl : serve = Echo.serve := hunfailing
    exact ⟨rfl, rfl, rfl, fun _ => ⟨e.context, rfl, rfl, rfl⟩⟩
  | custom name behaviour => exact hunfailing.elim

theorem Echoed.leave {c : Context} {result : Outcome × Execution} (h : Echoed handlers c result)
    (index : Nat) : Echoed handlers c (result.1, Chain.leave index result.1 result.2) := by
  constructor
  · exact h.ended
  · rw [leave_context, h.method]
  · rw [leave_context, h.status]
  · rw [leave_context]
    exact h.body

theorem echoed_ready (length : Nat) (hunfailing : ∀ h ∈ handlers, h.Unfailing)
    (hready : Ready index e) (hstatus : e.context.response.status = 200) :
    Echoed handlers e.context (advanceFrom length handlers index e) := by
  induction handlers generalizing index e with
  | nil =>
    rw [advanceFrom, if_neg hready.running]
    refine ⟨rfl, rfl, hstatus, ?_⟩
    rintro ⟨name, hmem⟩
    exact absurd hmem List.not_mem_nil
  | cons h rest ih =>
    obtain ⟨hfirst, hrest⟩ := List.forall_mem_cons.mp hunfailing
    rw [hready.advanceFrom_eq]
    exact (echoed_run hfirst length (hready.enter h) hstatus fun call => ih hrest).leave index

end Chain

namespace Dispatcher

structure Echoes (request : Request) (route : RouteMatch) (response : Response) : Prop where
  status : response.status = 200
  body : request.method ≠ .head → (∃ name, Echo.handler name ∈ route.entry.chain) →
    Echo.Repeats response.body route.entry.pattern route.params

theorem handle_echoes {d : Dispatcher} {request : Request} {route : RouteMatch}
    (hfound : d.router.load.resolve request.method request.path = .found route)
    (hunfailing : ∀ h ∈ route.entry.chain, h.Unfailing)
    (hnames : (route.params.pairs.map (·.1)).Nodup) (hlive : d.signal.isCancelled = false)
    (minted : RequestId) (w : World) : ∃ response,
      (d.handle request minted w).1 = .ok response ∧ Echoes request route response := by
  rcases hran : d.ran request minted w route with ⟨outcome, last⟩
  let a : Arrival := ⟨d, request, d.signal, minted⟩
  have hready : Chain.Ready 0 (a.start w route) := Arrival.ready_start hlive
  have hechoed : Chain.Echoed route.entry.chain (contextOf request route minted d.signal)
      (d.ran request minted w route) := Chain.echoed_ready _ hunfailing hready rfl
  rw [hran] at hechoed
  obtain rfl : outcome = .ok := hechoed.ended
  refine ⟨(withoutBody last).context.response, ?_, ?_, fun hmethod hecho => ?_⟩
  · rw [handle_eq, dispatch_found _ _ _ _ hfound hran]
    rfl
  · rw [withoutBody_status, hechoed.status]
  · obtain ⟨seen, hbody, hpattern, hparams⟩ := hechoed.body hecho
    have hother : ¬ last.context.method = .head := hechoed.method ▸ hmethod
    rw [withoutBody, if_neg hother, hbody]
    have hrepeats := Echo.repeats_body seen (by rw [hparams]; exact hnames)
    rwa [hpattern, hparams] at hrepeats

end Dispatcher

end RequestRouting

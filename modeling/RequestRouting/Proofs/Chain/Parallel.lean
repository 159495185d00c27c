import Mathlib.Data.List.Forall2
import RequestRouting.Proofs.Chain.Metering
import RequestRouting.Proofs.Chain.Moments

/-!
# Parallel runs

Two runs that go side by side. Their scopes are related and their chains in the same state, and
each call comes to the same end in both. The cursors are related too, but need not be the same:
there may be more handlers in the one chain than in the other. The meters that are read show the
same; of the others nothing is said.
-/

set_option autoImplicit false

namespace RequestRouting

/-- A relation that leaves alone what the chain and the built-in middleware work with: they see the
same in both scopes, and what they write is related again. -/
structure Scope.Aside (R : Scope → Scope → Prop) : Prop where
  requestId : ∀ {s s'}, R s s' → s'.context.requestId = s.context.requestId
  headers : ∀ {s s'}, R s s' → s'.context.headers = s.context.headers
  response : ∀ {s s'}, R s s' → s'.context.response = s.context.response
  pattern : ∀ {s s'}, R s s' → s'.context.pattern = s.context.pattern
  cancelled : ∀ {s s'}, R s s' → s'.context.isCancelled = s.context.isCancelled
  respond : ∀ {s s'}, R s s' → ∀ response : Response,
    R (s.mapContext fun c => { c with response := response })
      (s'.mapContext fun c => { c with response := response })
  identify : ∀ {s s'}, R s s' → ∀ id : RequestId,
    R (s.mapContext fun c => { c with requestId := id })
      (s'.mapContext fun c => { c with requestId := id })

theorem Scope.aside_eq : Scope.Aside Eq where
  requestId h := by rw [h]
  headers h := by rw [h]
  response h := by rw [h]
  pattern h := by rw [h]
  cancelled h := by rw [h]
  respond h _ := by rw [h]
  identify h _ := by rw [h]

/-- The meters that are seen show the same. -/
def Gauges.AgreeOn (seen : String → Prop) (gauges gauges' : Gauges) : Prop :=
  ∀ meter, seen meter → gauges' meter = gauges meter

theorem Gauges.AgreeOn.refl (seen : String → Prop) (gauges : Gauges) :
    gauges.AgreeOn seen gauges :=
  fun _ _ => rfl

theorem Gauges.AgreeOn.trans {seen : String → Prop} {gauges gauges' gauges'' : Gauges}
    (h : gauges.AgreeOn seen gauges') (h' : gauges'.AgreeOn seen gauges'') :
    gauges.AgreeOn seen gauges'' :=
  fun meter hseen => (h' meter hseen).trans (h meter hseen)

/-- Behaviours that take the same steps as long as they read related scopes and are shown related
views of their chains. They read the same meters, of those that are seen, and what they write is
related again. -/
inductive Program.Parallel (R : Scope → Scope → Prop) (V : ChainView → ChainView → Prop)
    (seen : String → Prop) : Program → Program → Prop where
  | finish (outcome : Outcome) : Parallel R V seen (.finish outcome) (.finish outcome)
  | read {next next' : Scope → Program}
      (h : ∀ s s', R s s' → Parallel R V seen (next s) (next' s')) :
      Parallel R V seen (.read next) (.read next')
  | write {s s' : Scope} {next next' : Program} (hscope : R s s')
      (h : Parallel R V seen next next') : Parallel R V seen (.write s next) (.write s' next')
  | gauge {meter : String} {next next' : Meter → Program} (hseen : seen meter)
      (h : ∀ m, Parallel R V seen (next m) (next' m)) :
      Parallel R V seen (.gauge meter next) (.gauge meter next')
  | inspect {next next' : ChainView → Program}
      (h : ∀ v v', V v v' → Parallel R V seen (next v) (next' v')) :
      Parallel R V seen (.inspect next) (.inspect next')
  | complete {next next' : Program} (h : Parallel R V seen next next') :
      Parallel R V seen (.complete next) (.complete next')
  | advance {next next' : Outcome → Program}
      (h : ∀ outcome, Parallel R V seen (next outcome) (next' outcome)) :
      Parallel R V seen (.advance next) (.advance next')

/-- A handler that does the same in parallel runs. The built-in middleware is not restricted. -/
def Handler.Parallel (R : Scope → Scope → Prop) (V : ChainView → ChainView → Prop)
    (seen : String → Prop) : Handler → Prop
  | .endpoint _ serve => ∀ s s' gauges gauges', R s s' → gauges.AgreeOn seen gauges' →
    (serve s' gauges').1 = (serve s gauges).1 ∧ R (serve s gauges).2 (serve s' gauges').2
  | .custom _ behaviour => behaviour.Parallel R V seen behaviour
  | _ => True

structure Execution.Parallel (R : Scope → Scope → Prop) (C : Nat → Nat → Prop)
    (seen : String → Prop) (e e' : Execution) : Prop where
  scope : R e.scope e'.scope
  cursor : C e.cursor e'.cursor
  state : e'.state = e.state
  gauges : e.gauges.AgreeOn seen e'.gauges

structure Chain.Concur (R : Scope → Scope → Prop) (C : Nat → Nat → Prop) (seen : String → Prop)
    (result result' : Outcome × Execution) : Prop where
  outcome : result'.1 = result.1
  execution : result.2.Parallel R C seen result'.2

def Step.Parallel (R : Scope → Scope → Prop) (C : Nat → Nat → Prop) (seen : String → Prop)
    (step step' : Step) : Prop :=
  ∀ e e', e.Parallel R C seen e' → Chain.Concur R C seen (step e) (step' e')

def Chain.Shows (R : Scope → Scope → Prop) (C : Nat → Nat → Prop)
    (seen : String → Prop) (V : ChainView → ChainView → Prop) (length length' : Nat) : Prop :=
  ∀ e e' : Execution, e.Parallel R C seen e' → V (e.view length) (e'.view length')

variable {R : Scope → Scope → Prop} {V : ChainView → ChainView → Prop} {C : Nat → Nat → Prop}
  {seen : String → Prop}

namespace Execution.Parallel

variable {e e' : Execution}

theorem log (h : e.Parallel R C seen e') (event event' : Event) :
    (e.log event).Parallel R C seen (e'.log event') :=
  ⟨h.scope, h.cursor, h.state, h.gauges⟩

theorem complete (h : e.Parallel R C seen e') : e.complete.Parallel R C seen e'.complete :=
  ⟨h.scope, h.cursor, rfl, h.gauges⟩

theorem updateMeter (h : e.Parallel R C seen e') (name : String) {f f' : Meter → Meter}
    (hf : f' = f) : (e.updateMeter name f).Parallel R C seen (e'.updateMeter name f') := by
  refine ⟨h.scope, h.cursor, h.state, fun meter hseen => ?_⟩
  have hsame : e'.meters.get meter = e.meters.get meter := h.gauges meter hseen
  by_cases hmeter : meter = name
  · subst hmeter
    simp only [Execution.gauges, Execution.updateMeter_get_self, hsame, hf]
  · simp only [Execution.gauges, Execution.updateMeter_get_of_ne hmeter, hsame]

theorem count (h : e.Parallel R C seen e') (hR : Scope.Aside R) (meter : String) :
    (e.updateMeter meter fun m => m.enter e.context.pattern).Parallel R C seen
      (e'.updateMeter meter fun m => m.enter e'.context.pattern) := by
  have hpattern : e'.context.pattern = e.context.pattern := hR.pattern h.scope
  exact h.updateMeter meter (by rw [hpattern])

theorem answer (h : e.Parallel R C seen e') (hR : Scope.Aside R) (meter : String)
    (outcome : Outcome) :
    (e.updateMeter meter fun m => m.answer (e.statusOf outcome)).Parallel R C seen
      (e'.updateMeter meter fun m => m.answer (e'.statusOf outcome)) := by
  have hresponse : e'.context.response = e.context.response := hR.response h.scope
  have hstatus : e'.statusOf outcome = e.statusOf outcome := by
    cases outcome <;> simp only [Execution.statusOf, hresponse]
  exact h.updateMeter meter (by rw [hstatus])

theorem respond (h : e.Parallel R C seen e') (hR : Scope.Aside R) (response : Response) :
    (e.respond response).Parallel R C seen (e'.respond response) :=
  ⟨hR.respond h.scope response, h.cursor, h.state, h.gauges⟩

theorem leave (h : e.Parallel R C seen e') {index index' : Nat}
    (hcursor : e'.cursor = index' + 1 ↔ e.cursor = index + 1) (outcome : Outcome) :
    (Chain.leave index outcome e).Parallel R C seen (Chain.leave index' outcome e') := by
  cases outcome with
  | ok =>
    unfold Chain.leave
    simp only [hcursor]
    split
    · exact h.complete
    · exact h
  | failed error => exact h.complete
  | panicked payload => exact h

theorem adopt (h : e.Parallel R C seen e') (hR : Scope.Aside R) :
    (RequestIdHeader.adopt e).Parallel R C seen (RequestIdHeader.adopt e') := by
  have hheader : e'.context.header? RequestId.headerName =
      e.context.header? RequestId.headerName :=
    congrArg (Headers.get? · RequestId.headerName) (hR.headers h.scope)
  rw [RequestIdHeader.adopt, RequestIdHeader.adopt, hheader]
  split
  · exact h
  · exact ⟨hR.identify h.scope _, h.cursor, h.state, h.gauges⟩
  · exact h.log _ _

theorem stamp (h : e.Parallel R C seen e') (hR : Scope.Aside R) :
    (RequestIdHeader.stamp e).Parallel R C seen (RequestIdHeader.stamp e') := by
  have hstamp (e : Execution) : RequestIdHeader.stamp e = e.respond
      (e.context.response.setHeader RequestId.headerName e.context.requestId.text) := by
    simp only [RequestIdHeader.stamp, Execution.respond, Execution.mapContext, Scope.mapContext,
      Execution.context]
  have hresponse : e'.context.response = e.context.response := hR.response h.scope
  have hid : e'.context.requestId = e.context.requestId := hR.requestId h.scope
  rw [hstamp, hstamp, hresponse, hid]
  exact h.respond hR _

theorem skip (h : e.Parallel R C seen e') (hR : Scope.Aside R) (length length' : Nat) :
    (Chain.skip length e).Parallel R C seen (Chain.skip length' e') :=
  (h.log _ _).complete.respond hR Chain.timedOut

theorem entered (hscope : R e.scope e'.scope) (hcursor : C (e.cursor + 1) (e'.cursor + 1))
    (hgauges : e.gauges.AgreeOn seen e'.gauges) (h h' : Handler) :
    (Chain.enter h e).Parallel R C seen (Chain.enter h' e') := by
  refine log ?_ _ _
  exact ⟨hscope, hcursor, rfl, hgauges⟩

end Execution.Parallel

section

variable {length length' : Nat} {advance advance' : Step} {e e' : Execution}

theorem Program.Parallel.run {program program' : Program} (h : program.Parallel R V seen program')
    (hview : Chain.Shows R C seen V length length')
    (hadvance : Step.Parallel R C seen advance advance') (he : e.Parallel R C seen e') :
    Chain.Concur R C seen (program.run length advance e) (program'.run length' advance' e') := by
  induction h generalizing e e' with
  | finish outcome => exact ⟨rfl, he⟩
  | read h ih => exact ih _ _ he.scope he
  | write hscope h ih => exact ih ⟨hscope, he.cursor, he.state, he.gauges⟩
  | gauge hseen h ih =>
    simp only [Program.run, he.gauges _ hseen]
    exact ih _ he
  | inspect h ih => exact ih _ _ (hview _ _ he) he
  | complete h ih => exact ih he.complete
  | advance h ih =>
    obtain ⟨houtcome, hafter⟩ := hadvance _ _ he
    simp only [Program.run, houtcome]
    exact ih _ hafter

theorem Program.Parallel.calls {program program' : Program} (h : program.Parallel R V seen program')
    (hview : Chain.Shows R C seen V length length')
    (hadvance : Step.Parallel R C seen advance advance') (he : e.Parallel R C seen e') :
    List.Forall₂ (Execution.Parallel R C seen) (program.calls length advance e)
      (program'.calls length' advance' e') := by
  induction h generalizing e e' with
  | finish outcome => exact .nil
  | read h ih => exact ih _ _ he.scope he
  | write hscope h ih => exact ih ⟨hscope, he.cursor, he.state, he.gauges⟩
  | gauge hseen h ih =>
    simp only [Program.calls, he.gauges _ hseen]
    exact ih _ he
  | inspect h ih => exact ih _ _ (hview _ _ he) he
  | complete h ih => exact ih he.complete
  | advance h ih =>
    obtain ⟨houtcome, hafter⟩ := hadvance _ _ he
    simp only [Program.calls, houtcome]
    exact .cons he (ih _ hafter)

theorem Step.Parallel.split (h : Step.Parallel R C seen advance advance')
    (he : e.Parallel R C seen e') :
    ∃ outcome after after', advance e = (outcome, after) ∧ advance' e' = (outcome, after') ∧
      after.Parallel R C seen after' := by
  obtain ⟨houtcome, hafter⟩ := h e e' he
  exact ⟨(advance e).1, (advance e).2, (advance' e').2, rfl, Prod.ext houtcome rfl, hafter⟩

theorem Recovery.parallel (hR : Scope.Aside R) (hadvance : Step.Parallel R C seen advance advance')
    (exposeDetails : Bool) (he : e.Parallel R C seen e') :
    Chain.Concur R C seen (Recovery.run exposeDetails advance e)
      (Recovery.run exposeDetails advance' e') := by
  obtain ⟨outcome, after, after', hrun, hrun', hafter⟩ := hadvance.split he
  rw [Recovery.run, Recovery.run, hrun, hrun']
  cases outcome with
  | ok => exact ⟨rfl, hafter⟩
  | failed error => exact ⟨rfl, (hafter.log _ _).respond hR _⟩
  | panicked payload => exact ⟨rfl, (hafter.complete.log _ _).respond hR _⟩

theorem Tracing.parallel (hadvance : Step.Parallel R C seen advance advance')
    (he : e.Parallel R C seen e') :
    Chain.Concur R C seen (Tracing.run advance e) (Tracing.run advance' e') := by
  obtain ⟨outcome, after, after', hrun, hrun', hafter⟩ :=
    hadvance.split (he.log (opening e) (opening e'))
  have hclosed (journal journal' : List Event) :
      Execution.Parallel R C seen { after with journal } { after' with journal := journal' } :=
    ⟨hafter.scope, hafter.cursor, hafter.state, hafter.gauges⟩
  rw [Tracing.run, Tracing.run, hrun, hrun']
  cases outcome with
  | ok => exact ⟨rfl, hclosed _ _⟩
  | failed error => exact ⟨rfl, hclosed _ _⟩
  | panicked payload => exact ⟨rfl, hafter⟩

theorem RequestIdHeader.parallel (hR : Scope.Aside R)
    (hadvance : Step.Parallel R C seen advance advance') (he : e.Parallel R C seen e') :
    Chain.Concur R C seen (RequestIdHeader.run advance e) (RequestIdHeader.run advance' e') := by
  obtain ⟨outcome, after, after', hrun, hrun', hafter⟩ := hadvance.split (he.adopt hR)
  rw [RequestIdHeader.run, RequestIdHeader.run, hrun, hrun']
  cases outcome with
  | ok => exact ⟨rfl, hafter.stamp hR⟩
  | failed error => exact ⟨rfl, hafter.stamp hR⟩
  | panicked payload => exact ⟨rfl, hafter⟩

theorem Metrics.parallel (hR : Scope.Aside R)
    (hadvance : Step.Parallel R C seen advance advance') (meter : String)
    (he : e.Parallel R C seen e') :
    Chain.Concur R C seen (Metrics.run meter advance e) (Metrics.run meter advance' e') := by
  obtain ⟨outcome, after, after', hrun, hrun', hafter⟩ := hadvance.split (he.count hR meter)
  rw [Metrics.run, Metrics.run, hrun, hrun']
  cases outcome with
  | ok => exact ⟨rfl, hafter.answer hR meter _⟩
  | failed error => exact ⟨rfl, hafter.answer hR meter _⟩
  | panicked payload => exact ⟨rfl, hafter⟩

theorem Handler.Parallel.run {handler : Handler} (h : handler.Parallel R V seen)
    (hR : Scope.Aside R) (hview : Chain.Shows R C seen V length length')
    (hadvance : Step.Parallel R C seen advance advance') (he : e.Parallel R C seen e') :
    Chain.Concur R C seen (handler.run length advance e) (handler.run length' advance' e') := by
  cases handler with
  | recovery exposeDetails => exact Recovery.parallel hR hadvance exposeDetails he
  | tracing => exact Tracing.parallel hadvance he
  | requestId => exact RequestIdHeader.parallel hR hadvance he
  | metrics meter => exact Metrics.parallel hR hadvance meter he
  | endpoint name serve =>
    obtain ⟨houtcome, hscope⟩ := h _ _ _ _ he.scope he.gauges
    exact ⟨houtcome, hscope, he.cursor, he.state, he.gauges⟩
  | custom name behaviour => exact Program.Parallel.run h hview hadvance he

theorem Handler.Parallel.calls {handler : Handler} (h : handler.Parallel R V seen)
    (hR : Scope.Aside R) (hview : Chain.Shows R C seen V length length')
    (hadvance : Step.Parallel R C seen advance advance') (he : e.Parallel R C seen e') :
    List.Forall₂ (Execution.Parallel R C seen) (handler.calls length advance e)
      (handler.calls length' advance' e') := by
  cases handler with
  | recovery exposeDetails => exact .cons he .nil
  | tracing => exact .cons (he.log _ _) .nil
  | requestId => exact .cons (he.adopt hR) .nil
  | metrics meter => exact .cons (he.count hR meter) .nil
  | endpoint name serve => exact .nil
  | custom name behaviour => exact Program.Parallel.calls h hview hadvance he

end

namespace Chain

/-- How the cursors in front of a handler are related to those behind it, where the handler stands
at `index` in the one chain and at `index'` in the other. -/
structure Lined (index index' : Nat) (C behind : Nat → Nat → Prop) : Prop where
  passes : ∀ {c c'}, C c c' → (index' < c' ↔ index < c)
  passed : ∀ {c c'}, C c c' → index < c → behind c c'
  enters : ∀ {c c'}, C c c' → ¬ index < c → behind (c + 1) (c' + 1)
  leaves : ∀ {c c'}, behind c c' → (c' = index' + 1 ↔ c = index + 1)
  returns : ∀ {c c'}, behind c c' → C c c'

variable {length length' index index' : Nat} {behind : Nat → Nat → Prop} {h : Handler}
  {rest rest' : List Handler}

theorem Concur.weaken {D : Nat → Nat → Prop} {result result' : Outcome × Execution}
    (h : Concur R C seen result result') (hcursor : ∀ {c c'}, C c c' → D c c') :
    Concur R D seen result result' :=
  ⟨h.outcome, h.execution.scope, hcursor h.execution.cursor, h.execution.state,
    h.execution.gauges⟩

theorem parallel_nil (length length' index index' : Nat) :
    Step.Parallel R C seen (advanceFrom length [] index) (advanceFrom length' [] index') := by
  intro e e' he
  rw [advanceFrom, advanceFrom, he.state]
  refine ⟨rfl, ?_⟩
  split
  · exact he.log _ _
  · exact he.complete

section

variable (hR : Scope.Aside R) (hview : Shows R behind seen V length length')
  (hsteady : h.Parallel R V seen)
  (hrest : Step.Parallel R behind seen (advanceFrom length rest (index + 1))
    (advanceFrom length' rest' (index' + 1)))

include hR hview hsteady hrest

theorem parallel_entered
    (hleaves : ∀ {c c'}, behind c c' → (c' = index' + 1 ↔ c = index + 1)) {e e' : Execution}
    (he : e.Parallel R behind seen e') {result result' : Outcome × Execution}
    (hrun : h.run length (advanceFrom length rest (index + 1)) e = result)
    (hrun' : h.run length' (advanceFrom length' rest' (index' + 1)) e' = result') :
    Concur R behind seen (result.1, leave index result.1 result.2)
      (result'.1, leave index' result'.1 result'.2) := by
  obtain ⟨houtcome, hafter⟩ := hsteady.run hR hview hrest he
  rw [hrun, hrun'] at houtcome hafter
  refine ⟨houtcome, ?_⟩
  rw [houtcome]
  exact hafter.leave (hleaves hafter.cursor) _

theorem parallel_cons (hlined : Lined index index' C behind) :
    Step.Parallel R C seen (advanceFrom length (h :: rest) index)
      (advanceFrom length' (h :: rest') index') := by
  intro e e' he
  have hlive : e'.context.isCancelled = e.context.isCancelled := hR.cancelled he.scope
  rw [advanceFrom, advanceFrom, he.state]
  simp only [hlined.passes he.cursor, hlive]
  split
  · exact ⟨rfl, he.log _ _⟩
  · split
    · rename_i hpassed
      exact (hrest e e' ⟨he.scope, hlined.passed he.cursor hpassed, he.state, he.gauges⟩).weaken
        hlined.returns
    · rename_i hreached
      split
      · exact ⟨rfl, he.skip hR _ _⟩
      · have hentered : (enter h e).Parallel R behind seen (enter h e') :=
          .entered he.scope (hlined.enters he.cursor hreached) he.gauges h h
        exact (parallel_entered hR hview hsteady hrest hlined.leaves hentered rfl rfl).weaken
          hlined.returns

end

theorem parallel_advance (hR : Scope.Aside R) {handlers : List Handler}
    (hsteady : ∀ h ∈ handlers, h.Parallel R Eq seen) :
    Step.Parallel R Eq seen (advance handlers) (advance handlers) := by
  have hlined (index : Nat) : Lined index index Eq Eq := by
    constructor <;> (intros; omega)
  have hview (length : Nat) : Shows R Eq seen Eq length length := by
    intro e e' he
    rw [Execution.view, Execution.view, he.cursor, he.state]
  suffices hfrom : ∀ length index, Step.Parallel R Eq seen (advanceFrom length handlers index)
      (advanceFrom length handlers index) from hfrom _ _
  intro length index
  induction handlers generalizing index with
  | nil => exact parallel_nil _ _ _ _
  | cons h rest ih =>
    obtain ⟨hfirst, hrest⟩ := List.forall_mem_cons.mp hsteady
    exact parallel_cons hR (hview length) hfirst (ih hrest (index + 1)) (hlined index)

end Chain

end RequestRouting

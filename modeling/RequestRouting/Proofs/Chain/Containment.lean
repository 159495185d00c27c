import RequestRouting.Dispatcher
import RequestRouting.Proofs.Chain.Moments

/-!
# What a recovery contains

Errors and panics go from handler to handler, each to the one in front. A recovery is left without
any, so that none from behind it comes to a handler in front of it; it answers in their place.
-/

set_option autoImplicit false

namespace RequestRouting

open ChainEvent

def Recovery.answer (exposeDetails : Bool) (response : Response) : Outcome → Response
  | .ok => response
  | .failed error => error.response
  | .panicked payload =>
    .error 500 (if exposeDetails then "Handler panicked: " ++ payload.message
      else "Internal Server Error")

section

variable {exposeDetails : Bool} {advance : Step} {e : Execution}

theorem Recovery.run_ok : (Recovery.run exposeDetails advance e).1 = .ok := by
  rw [Recovery.run]
  rcases advance e with ⟨_ | error | payload, after⟩ <;> rfl

theorem Recovery.run_context : (Recovery.run exposeDetails advance e).2.context =
    { (advance e).2.context with
      response := answer exposeDetails (advance e).2.context.response (advance e).1 } := by
  rw [Recovery.run]
  rcases advance e with ⟨_ | error | payload, after⟩
  · rfl
  · rfl
  · cases exposeDetails <;> rfl

theorem Recovery.run_completes
    (h : (advance e).1.returned → (advance e).2.state = .completed) :
    (Recovery.run exposeDetails advance e).2.state = .completed := by
  rw [Recovery.run]
  revert h
  rcases advance e with ⟨_ | error | payload, after⟩
  · exact fun h => h rfl
  · exact fun h => h rfl
  · exact fun _ => rfl

end

namespace Chain

/-- How outcomes go: an advance that does not end well ends with the handler that it entered, and
such an outcome comes back to a handler at the moment that the next one is left with it. -/
structure Relays (index : Nat) (trace : List ChainEvent) (outcome : Outcome) : Prop where
  last : outcome ≠ .ok → trace.getLast? = some (left index outcome)
  back : ∀ place came state before rest, trace = before ++ resumed place came state :: rest →
    came ≠ .ok → before.getLast? = some (left (place + 1) came)

def Raised (trace : List ChainEvent) (place : Nat) (outcome : Outcome) : Prop :=
  left place outcome ∈ trace ∧ ∀ state, resumed place outcome state ∉ trace

/-- The visit of a recovery in a run: what happened behind it lies within its one advance, and it
is left without an error, the chain completed and the answer in the response. Nothing else of the
context is changed, and no handler is entered afterwards. -/
structure Recovers (place : Nat) (exposeDetails : Bool) (moments before inner after : List Moment)
    (start down up : Execution) (came : Outcome) : Prop where
  split : moments = before ++ ⟨entered place, start⟩ :: ⟨called place, start⟩ :: (inner ++
    ⟨resumed place came down.state, down⟩ :: ⟨left place .ok, up⟩ :: after)
  front : ∀ m ∈ before ++ after, m.event.index < place
  behind : ∀ m ∈ inner, place < m.event.index
  spent : ∀ m ∈ after, m.event.enteredAt? = none
  completed : up.state = .completed
  context : up.context = { down.context with
    response := Recovery.answer exposeDetails down.context.response came }

section

variable {index place : Nat} {handlers : List Handler} {e : Execution}

theorem resumed_idle {count : Nat} {outcome came : Outcome} {state : ChainState}
    {before rest : List ChainEvent} (hsplit : idleCalls index count ++ [left index outcome] =
      before ++ resumed place came state :: rest) : came = .ok := by
  have hmem : resumed place came state ∈ idleCalls index count ++ [left index outcome] :=
    hsplit ▸ List.mem_append_right _ List.mem_cons_self
  rcases List.mem_append.mp hmem with hidle | hleft
  · rcases mem_idleCalls hidle with hevent | hevent
    · cases hevent
    · exact (resumed.inj hevent).2.1
  · cases List.mem_singleton.mp hleft

theorem relays_nil (index : Nat) : Relays index [] .ok :=
  ⟨fun hne => absurd rfl hne, fun place came state before rest hsplit => by simp at hsplit⟩

theorem relays_alone (index count : Nat) (outcome : Outcome) :
    Relays index (entered index :: (idleCalls index count ++ [left index outcome])) outcome := by
  refine ⟨fun _ => by simp [List.getLast?_cons], ?_⟩
  intro place came state before rest hsplit hne
  cases before with
  | nil => simp at hsplit
  | cons start before => exact absurd (resumed_idle (List.cons.inj hsplit).2) hne

theorem Relays.first {inner : List ChainEvent} {came : Outcome}
    (hinner : Relays (index + 1) inner came) (count : Nat) (outcome : Outcome)
    (state : ChainState) :
    Relays index (entered index :: called index :: (inner ++
      resumed index came state :: (idleCalls index count ++ [left index outcome]))) outcome := by
  refine ⟨fun _ => by simp [List.getLast?_cons], ?_⟩
  intro place came' state' before rest hsplit hne
  rcases split_first hsplit with ⟨-, hevent⟩ | ⟨-, hevent⟩ | ⟨front, tail, rfl, hfront, -⟩ |
    ⟨front, rfl, htail⟩
  · cases hevent
  · cases hevent
  · simp [List.getLast?_cons, hinner.back _ _ _ _ _ hfront hne]
  · cases front with
    | nil =>
      obtain ⟨rfl, rfl, -⟩ := resumed.inj (List.cons.inj htail).1
      simp [List.getLast?_cons, hinner.last hne]
    | cons start front => exact absurd (resumed_idle (List.cons.inj htail).2) hne

theorem traceFrom_relays (length : Nat) {handlers : List Handler}
    (hpasses : ∀ h ∈ handlers, h.PassesPanics) {index : Nat} {e : Execution}
    (hcursor : e.cursor = index) : Relays index (traceFrom length handlers index e)
      (advanceFrom length handlers index e).1 := by
  induction handlers generalizing index e with
  | nil => exact relays_nil index
  | cons h rest ih =>
    have hcourse := momentsFrom_course length hpasses hcursor
    rw [← momentsFrom_events]
    generalize momentsFrom length (h :: rest) index e = moments at hcourse ⊢
    generalize (advanceFrom length (h :: rest) index e).1 = outcome at hcourse ⊢
    cases hcourse with
    | rests => exact relays_nil index
    | alone hidle =>
      simp only [List.map_cons, List.map_append, hidle]
      exact relays_alone index _ outcome
    | first hcall hidle =>
      simp only [List.map_cons, List.map_append, hidle, momentsFrom_events]
      exact (ih (List.forall_mem_cons.mp hpasses).2 hcall).first _ outcome _

theorem Relays.raised_of_left {trace : List ChainEvent} {start : Nat} {out outcome : Outcome}
    (h : Relays start trace out) (hstop : ∀ outcome, left place outcome ∈ trace → outcome = .ok)
    (hne : outcome ≠ .ok) (hplace : index ≤ place) (hleft : left index outcome ∈ trace) :
    ∃ origin, index ≤ origin ∧ origin < place ∧ Raised trace origin outcome := by
  obtain ⟨gap, hgap⟩ := Nat.exists_eq_add_of_le hplace
  induction gap generalizing index with
  | zero =>
    rw [Nat.add_zero] at hgap
    exact absurd (hstop outcome (hgap ▸ hleft)) hne
  | succ gap ih =>
    by_cases hcame : ∃ state, resumed index outcome state ∈ trace
    · obtain ⟨state, hcame⟩ := hcame
      obtain ⟨before, after, hsplit⟩ := List.append_of_mem hcame
      have hnext : left (index + 1) outcome ∈ trace := by
        rw [hsplit]
        exact List.mem_append_left _
          (List.mem_of_getLast? (h.back index outcome state before after hsplit hne))
      obtain ⟨origin, hle, hlt, hraised⟩ := ih (by omega) hnext (by omega)
      exact ⟨origin, Nat.le_of_succ_le hle, hlt, hraised⟩
    · exact ⟨index, Nat.le_refl _, by omega, hleft, fun state hmem => hcame ⟨state, hmem⟩⟩

theorem Recovers.within {exposeDetails : Bool} {moments before inner after : List Moment}
    {start down up : Execution} {came : Outcome} (front back : List Moment)
    (h : Recovers place exposeDetails moments before inner after start down up came)
    (hplace : ∀ m ∈ front ++ back, m.event.index < place)
    (hspent : ∀ m ∈ back, m.event.enteredAt? = none) :
    Recovers place exposeDetails (front ++ (moments ++ back)) (front ++ before) inner
      (after ++ back) start down up came where
  split := by
    rw [h.split]
    simp
  front m hm := by
    simp only [List.mem_append] at hm
    rcases hm with (hm | hm) | hm | hm
    · exact hplace m (List.mem_append_left _ hm)
    · exact h.front m (List.mem_append_left _ hm)
    · exact h.front m (List.mem_append_right _ hm)
    · exact hplace m (List.mem_append_right _ hm)
  behind := h.behind
  spent m hm := by
    rcases List.mem_append.mp hm with hm | hm
    · exact h.spent m hm
    · exact hspent m hm
  completed := h.completed
  context := h.context

theorem momentsFrom_recovers_first (length : Nat) {exposeDetails : Bool} {rest : List Handler}
    (hrest : ∀ h ∈ rest, h.PassesPanics) {index : Nat} {e : Execution} (hcursor : e.cursor = index)
    (hentered : traceFrom length (.recovery exposeDetails :: rest) index e ≠ []) :
    ∃ before inner after start down up came, Recovers index exposeDetails
      (momentsFrom length (.recovery exposeDetails :: rest) index e)
      before inner after start down up came := by
  have hstart : (enter (.recovery exposeDetails) e).cursor = index + 1 := congrArg (· + 1) hcursor
  have hsettles := advanceFrom_settles length hrest (index + 1)
  rw [momentsFrom_of_entered hcursor hentered]
  refine ⟨[], momentsFrom length rest (index + 1) (enter (.recovery exposeDetails) e), [],
    enter (.recovery exposeDetails) e,
    (advanceFrom length rest (index + 1) (enter (.recovery exposeDetails) e)).2,
    (Recovery.run exposeDetails (advanceFrom length rest (index + 1))
      (enter (.recovery exposeDetails) e)).2,
    (advanceFrom length rest (index + 1) (enter (.recovery exposeDetails) e)).1, ?_⟩
  refine ⟨?_, fun m hm => absurd hm List.not_mem_nil,
    index_le_of_moment length rest (index + 1) _, fun m hm => absurd hm List.not_mem_nil,
    Recovery.run_completes (hsettles.completes _ hstart), Recovery.run_context⟩
  simp [callMoments, aroundCall, Handler.calls, Handler.run, Recovery.run_ok]

/-- By induction on the handlers in front of the recovery: it is entered within the first call of
each of them, and nothing is entered after that call. -/
theorem momentsFrom_recovers (length : Nat) {exposeDetails : Bool} {handlers : List Handler}
    (hpasses : ∀ h ∈ handlers, h.PassesPanics) {index gap : Nat} {e : Execution}
    (hcursor : e.cursor = index) (hplace : handlers[gap]? = some (.recovery exposeDetails))
    (hentered : index + gap ∈ entries (traceFrom length handlers index e)) :
    ∃ before inner after start down up came, Recovers (index + gap) exposeDetails
      (momentsFrom length handlers index e) before inner after start down up came := by
  induction handlers generalizing index gap e with
  | nil => simp at hplace
  | cons h rest ih =>
    cases gap with
    | zero =>
      simp only [List.getElem?_cons_zero, Option.some.injEq] at hplace
      subst hplace
      rw [Nat.add_zero] at hentered ⊢
      refine momentsFrom_recovers_first length (List.forall_mem_cons.mp hpasses).2 hcursor ?_
      intro hnil
      rw [hnil] at hentered
      exact absurd hentered List.not_mem_nil
    | succ gap =>
      rw [List.getElem?_cons_succ] at hplace
      have hreach : index + (gap + 1) = index + 1 + gap := by omega
      have hcourse := momentsFrom_course length hpasses hcursor
      rw [← momentsFrom_events, hreach] at hentered
      rw [hreach]
      generalize momentsFrom length (h :: rest) index e = moments at hcourse hentered ⊢
      generalize (advanceFrom length (h :: rest) index e).1 = outcome at hcourse
      cases hcourse with
      | rests => exact absurd hentered List.not_mem_nil
      | alone hidle =>
        have heq : index + 1 + gap = index := by simpa [hidle, enteredAt?] using hentered
        omega
      | @first _ call _ idle _ _ hcall hidle =>
        have hinner : index + 1 + gap ∈ entries (traceFrom length rest (index + 1) call) := by
          have hne : index + 1 + gap ≠ index := by omega
          simpa [hidle, enteredAt?, hne, momentsFrom_events] using hentered
        obtain ⟨before, inner, after, start, down, up, came, hrecovers⟩ :=
          ih (List.forall_mem_cons.mp hpasses).2 hcall hplace hinner
        refine ⟨_, inner, _, start, down, up, came, hrecovers.within [_, _] _ ?_ ?_⟩
        · intro m hm
          have hindex : m.event.index = index := by
            simp only [List.mem_cons, List.mem_append, List.not_mem_nil, or_false] at hm
            rcases hm with (rfl | rfl) | rfl | hm | rfl
            · rfl
            · rfl
            · rfl
            · exact index_of_mem_idleCalls (hidle ▸ List.mem_map_of_mem hm)
            · rfl
          omega
        · intro m hm
          simp only [List.mem_cons, List.mem_append, List.not_mem_nil, or_false] at hm
          rcases hm with rfl | hm | rfl
          · rfl
          · rcases mem_idleCalls (hidle ▸ List.mem_map_of_mem hm) with hevent | hevent
            · rw [hevent]
              rfl
            · rw [hevent]
              rfl
          · rfl

theorem Recovers.left_ok {exposeDetails : Bool} {moments before inner after : List Moment}
    {start down up : Execution} {came outcome : Outcome}
    (h : Recovers place exposeDetails moments before inner after start down up came)
    (hleft : left place outcome ∈ moments.map (·.event)) : outcome = .ok := by
  obtain ⟨m, hm, hevent⟩ := List.mem_map.mp hleft
  have hindex : m.event.index = place := congrArg ChainEvent.index hevent
  rw [h.split] at hm
  simp only [List.mem_append, List.mem_cons] at hm
  rcases hm with hm | rfl | rfl | hm | rfl | rfl | hm
  · exact absurd hindex (Nat.ne_of_lt (h.front m (List.mem_append_left _ hm)))
  · cases hevent
  · cases hevent
  · exact absurd hindex (Nat.ne_of_gt (h.behind m hm))
  · cases hevent
  · exact (left.inj hevent).2.symm
  · exact absurd hindex (Nat.ne_of_lt (h.front m (List.mem_append_right _ hm)))

theorem left_ok_of_recovery (length : Nat) {exposeDetails : Bool}
    (hpasses : ∀ h ∈ handlers, h.PassesPanics) {gap : Nat} (hcursor : e.cursor = index)
    (hplace : handlers[gap]? = some (.recovery exposeDetails)) (outcome : Outcome)
    (hleft : left (index + gap) outcome ∈ traceFrom length handlers index e) : outcome = .ok := by
  obtain ⟨count, -, -, hnested⟩ := traceFrom_nested length hpasses hcursor
  have hexit : index + gap ∈ exits (traceFrom length handlers index e) :=
    List.mem_filterMap.mpr ⟨_, hleft, rfl⟩
  rw [hnested.exits_eq, List.mem_reverse, ← hnested.entries_eq] at hexit
  obtain ⟨before, inner, after, start, down, up, came, hrecovers⟩ :=
    momentsFrom_recovers length hpasses hcursor hplace hexit
  rw [← momentsFrom_events] at hleft
  exact hrecovers.left_ok hleft

end

/-- What a recovery keeps from the handlers in front of it, and from the caller of the chain. -/
structure Contained (handlers : List Handler) (place : Nat) (exposeDetails : Bool)
    (e : Execution) : Prop where
  recovers : entered place ∈ trace handlers e →
    ∃ before inner after start down up came, Recovers place exposeDetails (moments handlers e)
      before inner after start down up came
  relays : Relays 0 (trace handlers e) (advance handlers e).1
  /-- An error or a panic that comes back in front of the recovery was also raised there. -/
  reaches : ∀ index outcome state, index < place → outcome ≠ .ok →
    resumed index outcome state ∈ trace handlers e →
      ∃ origin, index < origin ∧ origin < place ∧ Raised (trace handlers e) origin outcome
  caller : (advance handlers e).1 ≠ .ok →
    ∃ origin, origin < place ∧ Raised (trace handlers e) origin (advance handlers e).1

theorem contained_of_recovery {handlers : List Handler}
    (hpasses : ∀ h ∈ handlers, h.PassesPanics) {place : Nat} {exposeDetails : Bool}
    (hplace : handlers[place]? = some (.recovery exposeDetails)) {e : Execution}
    (hstart : e.cursor = 0) : Contained handlers place exposeDetails e := by
  have hrelays : Relays 0 (trace handlers e) (advance handlers e).1 :=
    traceFrom_relays handlers.length hpasses hstart
  have hstop : ∀ outcome, left place outcome ∈ trace handlers e → outcome = .ok := by
    intro outcome hleft
    refine left_ok_of_recovery handlers.length hpasses hstart hplace outcome ?_
    rwa [Nat.zero_add]
  refine ⟨fun hentered => ?_, hrelays, ?_, ?_⟩
  · rw [← Nat.zero_add place] at hentered ⊢
    exact momentsFrom_recovers handlers.length hpasses hstart hplace
      (List.mem_filterMap.mpr ⟨_, hentered, rfl⟩)
  · intro index outcome state hlt hne hcame
    obtain ⟨before, after, hsplit⟩ := List.append_of_mem hcame
    have hlast := hrelays.back index outcome state before after hsplit hne
    have hleft : left (index + 1) outcome ∈ trace handlers e := by
      rw [hsplit]
      exact List.mem_append_left _ (List.mem_of_getLast? hlast)
    exact hrelays.raised_of_left hstop hne hlt hleft
  · intro hne
    have hleft := List.mem_of_getLast? (hrelays.last hne)
    obtain ⟨origin, -, hlt, hraised⟩ :=
      hrelays.raised_of_left hstop hne (Nat.zero_le place) hleft
    exact ⟨origin, hlt, hraised⟩

end Chain

namespace Dispatcher

theorem dispatchWith_answers {d : Dispatcher} {request : Request} {route : RouteMatch}
    {signal : CancelSignal} {minted : RequestId} {w : World}
    (hfound : d.router.load.resolve request.method request.path = .found route)
    (hok : ∀ e : Execution, e.cursor = 0 → (Chain.advance route.entry.chain e).1 = .ok) :
    ∃ response, (d.dispatchWith request signal minted w).1 = .answered response := by
  unfold dispatchWith
  simp only [hfound]
  rw [hok _ rfl]
  exact ⟨_, rfl⟩

end Dispatcher

/-- Whatever the other handlers do, if they let panics through. Behind a recovery that comes first,
a route that is found is always answered. -/
theorem Chain.recovery_contains (handlers : List Handler)
    (hpasses : ∀ h ∈ handlers, h.PassesPanics) (place : Nat) (exposeDetails : Bool)
    (hplace : handlers[place]? = some (.recovery exposeDetails)) :
    (∀ e : Execution, e.cursor = 0 → Contained handlers place exposeDetails e) ∧
    (place = 0 → ∀ (d : Dispatcher) (request : Request) (route : RouteMatch) (minted : RequestId)
      (w : World), d.router.load.resolve request.method request.path = .found route →
      route.entry.chain = handlers →
        (∃ response, (d.dispatch request minted w).1 = .answered response) ∧
        ∀ signal, ∃ response, (d.dispatchWith request signal minted w).1 = .answered response) := by
  refine ⟨fun e hstart => contained_of_recovery hpasses hplace hstart, ?_⟩
  rintro rfl d request route minted w hfound rfl
  have hok : ∀ e : Execution, e.cursor = 0 → (advance route.entry.chain e).1 = .ok := by
    intro e hstart
    refine Decidable.byContradiction fun hne => ?_
    obtain ⟨origin, hlt, -⟩ := (contained_of_recovery hpasses hplace hstart).caller hne
    exact absurd hlt (Nat.not_lt_zero origin)
  exact ⟨Dispatcher.dispatchWith_answers hfound hok,
    fun signal => Dispatcher.dispatchWith_answers hfound hok⟩

theorem Chain.recovery_contains_panic :
    let failing : Handler := .endpoint "fail" fun scope _ => (.panicked .other, scope)
    let behind : List Handler := [.recovery false, failing]
    let handlers : List Handler := .custom none (.advancing (.advancing (.finish .ok))) :: behind
    let context : Context := { requestId := ⟨0⟩, method := .get, path := "/" }
    let e : Execution := { scope := { context } }
    let d := Dispatcher.withConfig
      ((({} : Router).use (.recovery false)).register .get "/" failing).2 {}
    let request : Request := { method := .get, uri := "/" }
    (Contained handlers 1 false e ∧ entered 1 ∈ trace handlers e ∧
      (advance handlers e).2.context.response = .error 500 "Internal Server Error") ∧
    (∃ route, d.router.load.resolve request.method request.path = .found route ∧
      route.entry.chain = behind) ∧
    ∃ response, (d.dispatch request ⟨0⟩ {}).1 = .answered response := by
  intro failing behind handlers context e d request
  have hbehind : ∀ h ∈ behind, h.PassesPanics := by
    intro h hmem
    simp only [behind, List.mem_cons, List.not_mem_nil, or_false] at hmem
    rcases hmem with rfl | rfl
    · trivial
    · trivial
  have hpasses : ∀ h ∈ handlers, h.PassesPanics :=
    List.forall_mem_cons.mpr ⟨.advancing (.advancing trivial), hbehind⟩
  have hcontained := (recovery_contains handlers hpasses 1 false rfl).1 e rfl
  have hentered : entered 1 ∈ trace handlers e := by decide
  have hpath : request.path = "/" := by decide
  have hfound : d.router.load.resolve request.method request.path =
      .found ⟨⟨0, .get, "/", "fail", behind⟩, ⟨[]⟩⟩ := by
    rw [hpath]
    rfl
  have hanswered := (recovery_contains behind hbehind 0 false rfl).2 rfl d request _ ⟨0⟩ {}
    hfound rfl
  exact ⟨⟨hcontained, hentered, rfl⟩, ⟨_, hfound, rfl⟩, hanswered.1⟩

end RequestRouting

import RequestRouting.Proofs.Chain.Parallel
import RequestRouting.Proofs.Chain.Progress

/-!
# Observers in a chain

Tracing and metrics only report and count. A chain with one of them in front of some handler runs in
parallel to the chain without it: at a cursor that is one further as soon as the observer is passed.
That it counts shows to those alone who read the meter.
-/

set_option autoImplicit false

namespace RequestRouting

def Program.NeverInspects : Program → Prop
  | .finish _ => True
  | .read next => ∀ scope, (next scope).NeverInspects
  | .write _ next => next.NeverInspects
  | .gauge _ next => ∀ m, (next m).NeverInspects
  | .inspect _ => False
  | .complete next => next.NeverInspects
  | .advance next => ∀ outcome, (next outcome).NeverInspects

def Handler.NeverInspects : Handler → Prop
  | .custom _ behaviour => behaviour.NeverInspects
  | _ => True

def Program.ReadsOnly (seen : String → Prop) : Program → Prop
  | .finish _ => True
  | .read next => ∀ scope, (next scope).ReadsOnly seen
  | .write _ next => next.ReadsOnly seen
  | .gauge meter next => seen meter ∧ ∀ m, (next m).ReadsOnly seen
  | .inspect next => ∀ view, (next view).ReadsOnly seen
  | .complete next => next.ReadsOnly seen
  | .advance next => ∀ outcome, (next outcome).ReadsOnly seen

def Handler.ReadsOnly (seen : String → Prop) : Handler → Prop
  | .endpoint _ serve => ∀ scope gauges gauges', gauges.AgreeOn seen gauges' →
    serve scope gauges' = serve scope gauges
  | .custom _ behaviour => behaviour.ReadsOnly seen
  | _ => True

/-- A handler that deals with its chain by advancing and completing it, and with meters by reading
some that are seen. -/
structure Handler.Unsighted (seen : String → Prop) (handler : Handler) : Prop where
  inspects : handler.NeverInspects
  reads : handler.ReadsOnly seen

variable {seen : String → Prop}

theorem Program.parallel_self {V : ChainView → ChainView → Prop} {program : Program}
    (h : program.NeverInspects) (hreads : program.ReadsOnly seen) :
    program.Parallel Eq V seen program := by
  induction program with
  | finish outcome => exact .finish outcome
  | read next ih =>
    refine .read fun s s' hs => ?_
    rw [← hs]
    exact ih s (h s) (hreads s)
  | write scope next ih => exact .write rfl (ih h hreads)
  | gauge meter next ih => exact .gauge hreads.1 fun m => ih m (h m) (hreads.2 m)
  | inspect next ih => exact h.elim
  | complete next ih => exact .complete (ih h hreads)
  | advance next ih => exact .advance fun outcome => ih outcome (h outcome) (hreads outcome)

theorem Handler.Unsighted.parallel {V : ChainView → ChainView → Prop} {handler : Handler}
    (h : handler.Unsighted seen) : handler.Parallel Eq V seen := by
  obtain ⟨hinspects, hreads⟩ := h
  cases handler with
  | endpoint name serve =>
    intro s s' gauges gauges' hs hgauges
    rw [← hs, hreads s gauges gauges' hgauges]
    exact ⟨rfl, rfl⟩
  | custom name behaviour => exact Program.parallel_self hinspects hreads
  | _ => trivial

/-- A handler that reports, or counts on a meter that is not seen, and otherwise only goes on. -/
def Handler.Observes (seen : String → Prop) : Handler → Prop
  | .tracing => True
  | .metrics meter => ¬ seen meter
  | _ => False

theorem Execution.Parallel.count_unseen {e e' : Execution} {C : Nat → Nat → Prop} {meter : String}
    (h : e.Parallel Eq C seen e') (hmeter : ¬ seen meter) (f : Meter → Meter) :
    e.Parallel Eq C seen (e'.updateMeter meter f) := by
  refine ⟨h.scope, h.cursor, h.state, fun name hname => ?_⟩
  have hother : name ≠ meter := by
    rintro rfl
    exact hmeter hname
  exact (Execution.updateMeter_get_of_ne hother e' f).trans (h.gauges name hname)

theorem Handler.Observes.run {observer : Handler} (h : observer.Observes seen) (length : Nat)
    (advance : Step) (e : Execution) : ∃ call,
      observer.calls length advance e = [call] ∧ e.Parallel Eq Eq seen call ∧
        Chain.Concur Eq Eq seen (advance call) (observer.run length advance e) := by
  have hself (e : Execution) : e.Parallel Eq Eq seen e := ⟨rfl, rfl, rfl, .refl _ _⟩
  cases observer with
  | tracing =>
    refine ⟨_, rfl, ⟨rfl, rfl, rfl, .refl _ _⟩, ?_⟩
    rw [Handler.run, Tracing.run]
    rcases advance (e.log (Tracing.opening e)) with ⟨_ | error | payload, after⟩ <;>
      exact ⟨rfl, rfl, rfl, rfl, .refl _ _⟩
  | metrics meter =>
    refine ⟨_, rfl, (hself e).count_unseen h _, ?_⟩
    rw [Handler.run, Metrics.run]
    rcases advance (e.updateMeter meter fun m => m.enter e.context.pattern) with
      ⟨_ | error | payload, after⟩
    · exact ⟨rfl, (hself after).count_unseen h _⟩
    · exact ⟨rfl, (hself after).count_unseen h _⟩
    · exact ⟨rfl, hself after⟩
  | recovery exposeDetails => exact h.elim
  | requestId => exact h.elim
  | endpoint name serve => exact h.elim
  | custom name behaviour => exact h.elim

/-- The place of a handler in a chain that has one more, at `place`. -/
def Chain.besidePlace (place index : Nat) : Nat := if index < place then index else index + 1

theorem Chain.besidePlace_ne (place index : Nat) : besidePlace place index ≠ place := by
  unfold besidePlace
  split <;> omega

def ChainEvent.beside (place : Nat) : ChainEvent → ChainEvent
  | .entered i => .entered (Chain.besidePlace place i)
  | .called i => .called (Chain.besidePlace place i)
  | .resumed i outcome state => .resumed (Chain.besidePlace place i) outcome state
  | .left i outcome => .left (Chain.besidePlace place i) outcome

def Moment.told (m : Moment) : ChainEvent × Scope := (m.event, m.execution.scope)

def Moment.toldBeside (place : Nat) (m : Moment) : ChainEvent × Scope :=
  (m.event.beside place, m.execution.scope)

namespace Chain

/-- What the moments tell of all handlers but the one at `place`. -/
def toldOfOthers (place : Nat) (moments : List Moment) : List (ChainEvent × Scope) :=
  (moments.filter fun m => m.event.index != place).map Moment.told

theorem toldOfOthers_cons_of_ne {place : Nat} {m : Moment} (h : m.event.index ≠ place)
    (moments : List Moment) : toldOfOthers place (m :: moments) =
      m.told :: toldOfOthers place moments := by
  rw [toldOfOthers, List.filter_cons_of_pos (by simpa using h)]
  rfl

theorem toldOfOthers_cons_of_eq {place : Nat} {m : Moment} (h : m.event.index = place)
    (moments : List Moment) : toldOfOthers place (m :: moments) = toldOfOthers place moments := by
  rw [toldOfOthers, List.filter_cons_of_neg (by simpa using h)]
  rfl

theorem toldOfOthers_append (place : Nat) (first second : List Moment) :
    toldOfOthers place (first ++ second) =
      toldOfOthers place first ++ toldOfOthers place second := by
  rw [toldOfOthers, List.filter_append, List.map_append]
  rfl

/-- The cursors of two chains of which the second has one more handler, at `place`. None of them
stands in front of `index`. -/
def Beside (place index c c' : Nat) : Prop :=
  index ≤ c ∧ (c ≤ place ∧ c' = c ∨ place < c ∧ c' = c + 1)

theorem lined_before {place index : Nat} (h : index < place) :
    Lined index index (Beside place index) (Beside place (index + 1)) := by
  constructor <;> simp only [Beside] <;> omega

theorem lined_behind {place index : Nat} (h : place < index) :
    Lined index (index + 1) (Beside place index) (Beside place (index + 1)) := by
  constructor <;> simp only [Beside] <;> omega

/-- Advances that are parallel, and of whose handlers the same is told. -/
def Accords (place : Nat) (C : Nat → Nat → Prop) (seen : String → Prop) (step step' : Step)
    (moments moments' : Execution → List Moment) : Prop :=
  ∀ e e', e.Parallel Eq C seen e' → Concur Eq C seen (step e) (step' e') ∧
    toldOfOthers place (moments' e') = (moments e).map (Moment.toldBeside place)

theorem Accords.parallel {place : Nat} {C : Nat → Nat → Prop} {step step' : Step}
    {moments moments' : Execution → List Moment}
    (h : Accords place C seen step step' moments moments') :
    Step.Parallel Eq C seen step step' :=
  fun e e' he => (h e e' he).1

variable {length length' place index index' : Nat} {C behind : Nat → Nat → Prop}
  {h : Handler} {rest rest' : List Handler}

section

variable (hplace : index' = besidePlace place index)
  (hrest : Accords place behind seen (advanceFrom length rest (index + 1))
    (advanceFrom length' rest' (index' + 1)) (momentsFrom length rest (index + 1))
    (momentsFrom length' rest' (index' + 1)))

include hplace hrest

theorem toldOfOthers_callMoments {calls calls' : List Execution}
    (hcalls : List.Forall₂ (Execution.Parallel Eq behind seen) calls calls') :
    toldOfOthers place (callMoments length' index' rest' calls') =
      (callMoments length index rest calls).map (Moment.toldBeside place) := by
  have hne : index' ≠ place := hplace ▸ besidePlace_ne place index
  induction hcalls with
  | nil => rfl
  | @cons call call' later later' hcall hlater ih =>
    obtain ⟨hconcur, htold⟩ := hrest _ _ hcall
    rw [callMoments_cons, callMoments_cons, toldOfOthers_cons_of_ne (by exact hne),
      toldOfOthers_append, toldOfOthers_cons_of_ne (by exact hne), htold, ih]
    simp only [List.map_cons, List.map_append, Moment.told, Moment.toldBeside, ChainEvent.beside,
      ← hplace, hcall.scope, hconcur.outcome, hconcur.execution.scope, hconcur.execution.state]

theorem accords_entered (hunsighted : h.Unsighted seen)
    (hleaves : ∀ {c c'}, behind c c' → (c' = index' + 1 ↔ c = index + 1)) {e e' : Execution}
    (he : e.Parallel Eq behind seen e') {result result' : Outcome × Execution}
    (hrun : h.run length (advanceFrom length rest (index + 1)) e = result)
    (hrun' : h.run length' (advanceFrom length' rest' (index' + 1)) e' = result') :
    Concur Eq behind seen (result.1, leave index result.1 result.2)
        (result'.1, leave index' result'.1 result'.2) ∧
      toldOfOthers place (⟨.entered index', e'⟩ :: (callMoments length' index' rest'
          (h.calls length' (advanceFrom length' rest' (index' + 1)) e') ++
            [⟨.left index' result'.1, result'.2⟩])) =
        (⟨.entered index, e⟩ :: (callMoments length index rest
          (h.calls length (advanceFrom length rest (index + 1)) e) ++
            [⟨.left index result.1, result.2⟩])).map (Moment.toldBeside place) := by
  have hne : index' ≠ place := hplace ▸ besidePlace_ne place index
  have hsteady : h.Parallel Eq (fun _ _ => True) seen := hunsighted.parallel
  have hview : Shows Eq behind seen (fun _ _ => True) length length' := fun _ _ _ => trivial
  have hcalls := hsteady.calls Scope.aside_eq hview hrest.parallel he
  obtain ⟨houtcome, hafter⟩ := hsteady.run Scope.aside_eq hview hrest.parallel he
  rw [hrun, hrun'] at houtcome hafter
  refine ⟨parallel_entered Scope.aside_eq hview hsteady hrest.parallel hleaves he hrun hrun', ?_⟩
  rw [toldOfOthers_cons_of_ne (by exact hne), toldOfOthers_append,
    toldOfOthers_callMoments hplace hrest hcalls, toldOfOthers_cons_of_ne (by exact hne)]
  simp only [List.map_cons, List.map_append, Moment.told, Moment.toldBeside, ChainEvent.beside,
    ← hplace, he.scope, houtcome, hafter.scope, toldOfOthers, List.filter_nil, List.map_nil]

theorem accords_cons (hunsighted : h.Unsighted seen) (hlined : Lined index index' C behind) :
    Accords place C seen (advanceFrom length (h :: rest) index)
      (advanceFrom length' (h :: rest') index')
      (momentsFrom length (h :: rest) index) (momentsFrom length' (h :: rest') index') := by
  intro e e' he
  have hlive : e'.context.isCancelled = e.context.isCancelled :=
    Scope.aside_eq.cancelled he.scope
  refine ⟨parallel_cons (V := fun _ _ => True) Scope.aside_eq (fun _ _ _ => trivial)
    hunsighted.parallel hrest.parallel hlined e e' he, ?_⟩
  rw [momentsFrom, momentsFrom, he.state]
  simp only [hlined.passes he.cursor, hlive]
  split
  · rfl
  · split
    · rename_i hpassed
      exact (hrest e e' ⟨he.scope, hlined.passed he.cursor hpassed, he.state, he.gauges⟩).2
    · rename_i hreached
      split
      · rfl
      · have hentered : (enter h e).Parallel Eq behind seen (enter h e') :=
          .entered he.scope (hlined.enters he.cursor hreached) he.gauges h h
        exact (accords_entered hplace hrest hunsighted hlined.leaves hentered rfl rfl).2

end

theorem accords_nil (place : Nat) (length length' index index' : Nat) :
    Accords place C seen (advanceFrom length [] index) (advanceFrom length' [] index')
      (momentsFrom length [] index) (momentsFrom length' [] index') :=
  fun e e' he => ⟨parallel_nil _ _ _ _ e e' he, rfl⟩

theorem accords_behind (length length' : Nat) {handlers : List Handler}
    (hunsighted : ∀ h ∈ handlers, h.Unsighted seen) (hindex : place < index) :
    Accords place (Beside place index) seen (advanceFrom length handlers index)
      (advanceFrom length' handlers (index + 1)) (momentsFrom length handlers index)
      (momentsFrom length' handlers (index + 1)) := by
  induction handlers generalizing index with
  | nil => exact accords_nil _ _ _ _ _
  | cons h rest ih =>
    obtain ⟨hfirst, hrest⟩ := List.forall_mem_cons.mp hunsighted
    have hplace : index + 1 = besidePlace place index := by
      rw [besidePlace, if_neg (Nat.not_lt.mpr (Nat.le_of_lt hindex))]
    exact accords_cons hplace (ih hrest (Nat.lt_succ_of_lt hindex)) hfirst (lined_behind hindex)

section

variable {e : Execution}

theorem momentsFrom_of_completed {handlers : List Handler} (h : e.state = .completed) :
    momentsFrom length handlers index e = [] := by
  cases handlers with
  | nil => rfl
  | cons first rest => rw [momentsFrom, if_pos h]

theorem momentsFrom_of_passed (hpassed : index < e.cursor) :
    momentsFrom length (h :: rest) index e = momentsFrom length rest (index + 1) e := by
  by_cases hdone : e.state = .completed
  · rw [momentsFrom_of_completed hdone, momentsFrom_of_completed hdone]
  · rw [momentsFrom, if_neg hdone, if_pos hpassed]

theorem skipped_of_cancelled (length : Nat) (h : Handler) (rest : List Handler)
    (hrunning : e.state ≠ .completed) (hcursor : e.cursor = index)
    (hcancelled : e.context.isCancelled = true) :
    advanceFrom length (h :: rest) index e = (.ok, skip length e) ∧
      momentsFrom length (h :: rest) index e = [] := by
  have hreached : ¬ index < e.cursor := Nat.not_lt.mpr (Nat.le_of_eq hcursor)
  rw [advanceFrom, momentsFrom, if_neg hrunning, if_neg hreached, if_pos hcancelled,
    if_neg hrunning, if_neg hreached, if_pos hcancelled]
  exact ⟨rfl, rfl⟩

theorem advance_of_cancelled {handlers : List Handler} (hchain : handlers ≠ [])
    (hstart : e.state ≠ .completed) (hcursor : e.cursor = 0)
    (hcancelled : e.context.isCancelled = true) :
    advance handlers e = (.ok, skip handlers.length e) := by
  obtain ⟨h, rest, rfl⟩ := List.exists_cons_of_ne_nil hchain
  exact (skipped_of_cancelled _ h rest hstart hcursor hcancelled).1

theorem Ready.momentsFrom_entered (hready : Ready index e) :
    momentsFrom length (h :: rest) index e =
      ⟨.entered index, Chain.enter h e⟩ :: (callMoments length index rest
        (h.calls length (advanceFrom length rest (index + 1)) (Chain.enter h e)) ++
          [⟨.left index (h.run length (advanceFrom length rest (index + 1)) (Chain.enter h e)).1,
            (h.run length (advanceFrom length rest (index + 1)) (Chain.enter h e)).2⟩]) := by
  rw [momentsFrom, if_neg hready.running, if_neg hready.unreached, if_neg hready.uncancelled]
  rfl

end

theorem Ready.of_parallel {e e' : Execution} (h : Ready index e) (he : e.Parallel Eq Eq seen e') :
    Ready index e' where
  running := he.state ▸ h.running
  cursor := he.cursor.symm.trans h.cursor
  live := (Scope.aside_eq.cancelled he.scope).trans h.live

theorem Ready.adopt {e : Execution} (hready : Ready index e) :
    Ready index (RequestIdHeader.adopt e) := by
  rw [RequestIdHeader.adopt]
  split
  · exact hready
  · exact ⟨hready.running, hready.cursor, hready.live⟩
  · exact ⟨hready.running, hready.cursor, hready.live⟩

/-- Leaving the observer changes nothing: it is not the last handler that was entered, and an error
has completed the chain already. -/
theorem parallel_leave_observer {outcome : Outcome} {e e' last : Execution}
    (he : (leave place outcome e).Parallel Eq (Beside place (place + 1)) seen e')
    (hlast : e'.Parallel Eq Eq seen last) :
    (leave place outcome e).Parallel Eq (Beside place place) seen (leave place outcome last) := by
  obtain ⟨hscope, hcursor, hstate, hgauges⟩ := he
  have hmoved := hlast.cursor
  have hsame : (leave place outcome e).Parallel Eq (Beside place place) seen last := by
    refine ⟨hscope.trans hlast.scope, ?_, hlast.state.trans hstate, hgauges.trans hlast.gauges⟩
    simp only [Beside] at hcursor ⊢
    omega
  cases outcome with
  | ok =>
    have hfurther : ¬ last.cursor = place + 1 := by
      simp only [Beside] at hcursor
      omega
    rw [leave, leave, if_neg hfurther]
    exact hsame
  | failed error => exact ⟨hsame.scope, hsame.cursor, rfl, hsame.gauges⟩
  | panicked payload => exact hsame

section

variable {observer next : Handler} {handlers : List Handler} {e e' : Execution}

theorem accords_observer_entered (length length' : Nat) (hobserver : observer.Observes seen)
    (hnext : next.Unsighted seen) (hbehind : ∀ h ∈ handlers, h.Unsighted seen)
    (hready : Ready place e) (he : e.Parallel Eq Eq seen e') :
    Concur Eq (Beside place place) seen (advanceFrom length (next :: handlers) place e)
        (advanceFrom length' (observer :: next :: handlers) place e') ∧
      toldOfOthers place (momentsFrom length' (observer :: next :: handlers) place e') =
        (momentsFrom length (next :: handlers) place e).map (Moment.toldBeside place) := by
  have hrest := accords_behind length length' hbehind (Nat.lt_succ_self place)
  have hready' : Ready place e' := hready.of_parallel he
  obtain ⟨call, hcall, hcalled, hobserved⟩ := hobserver.run length'
    (advanceFrom length' (next :: handlers) (place + 1)) (enter observer e')
  have hreached : Ready (place + 1) call := (hready'.enter observer).of_parallel hcalled
  have hboth : (enter next e).Parallel Eq (Beside place (place + 1)) seen (enter next call) := by
    refine .entered (he.scope.trans hcalled.scope) ?_ (he.gauges.trans hcalled.gauges) next next
    rw [hready.cursor, hreached.cursor]
    exact ⟨Nat.le_refl _, .inr ⟨Nat.lt_succ_self place, rfl⟩⟩
  have hplace : place + 1 = besidePlace place place := by
    rw [besidePlace, if_neg (Nat.lt_irrefl place)]
  obtain ⟨⟨houtcome, hafter⟩, htold⟩ := accords_entered hplace hrest hnext
    (by simp only [Beside]; omega) hboth rfl rfl
  rw [hreached.advanceFrom_eq] at hobserved
  constructor
  · rw [hready.advanceFrom_eq, hready'.advanceFrom_eq]
    have hended := hobserved.outcome.trans houtcome
    refine ⟨hended, ?_⟩
    rw [hended]
    exact parallel_leave_observer hafter hobserved.execution
  · rw [hready.momentsFrom_entered, hready'.momentsFrom_eq hcall, hreached.momentsFrom_entered,
      toldOfOthers_cons_of_eq (by rfl), toldOfOthers_cons_of_eq (by rfl), toldOfOthers_append,
      htold, toldOfOthers_cons_of_eq (by rfl), toldOfOthers_cons_of_eq (by rfl)]
    exact List.append_nil _

theorem accords_observer (length length' : Nat) (hobserver : observer.Observes seen)
    (hnext : next.Unsighted seen) (hbehind : ∀ h ∈ handlers, h.Unsighted seen) (place : Nat) :
    Accords place (Beside place place) seen (advanceFrom length (next :: handlers) place)
      (advanceFrom length' (observer :: next :: handlers) place)
      (momentsFrom length (next :: handlers) place)
      (momentsFrom length' (observer :: next :: handlers) place) := by
  intro e e' he
  have hcursor := he.cursor
  simp only [Beside] at hcursor
  by_cases hdone : e.state = .completed
  · have hdone' : e'.state = .completed := he.state.trans hdone
    rw [advanceFrom_of_completed hdone, advanceFrom_of_completed hdone',
      momentsFrom_of_completed hdone, momentsFrom_of_completed hdone']
    exact ⟨⟨rfl, he.log _ _⟩, rfl⟩
  by_cases hpassed : place < e.cursor
  · have hpassed' : place + 1 < e'.cursor := by omega
    have hbeside : Beside place (place + 1) e.cursor e'.cursor := by
      simp only [Beside]
      omega
    rw [(advanceFrom_of_passed hpassed).1, momentsFrom_of_passed hpassed,
      (advanceFrom_of_passed (Nat.lt_of_succ_lt hpassed')).1, (advanceFrom_of_passed hpassed').1,
      momentsFrom_of_passed (Nat.lt_of_succ_lt hpassed'), momentsFrom_of_passed hpassed']
    obtain ⟨hconcur, htold⟩ := accords_behind length length' hbehind (Nat.lt_succ_self place) e e'
      ⟨he.scope, hbeside, he.state, he.gauges⟩
    refine ⟨hconcur.weaken fun hbeside => ?_, htold⟩
    simp only [Beside] at hbeside ⊢
    omega
  have hreached : e.cursor = place := by omega
  have hsame : e.Parallel Eq Eq seen e' := ⟨he.scope, by omega, he.state, he.gauges⟩
  cases hcancelled : e.context.isCancelled with
  | true =>
    have hdone' : ¬ e'.state = .completed := he.state ▸ hdone
    have hcancelled' := (Scope.aside_eq.cancelled he.scope).trans hcancelled
    have hskipped := skipped_of_cancelled length next handlers hdone hreached hcancelled
    have hskipped' := skipped_of_cancelled length' observer (next :: handlers) hdone'
      (hsame.cursor.symm.trans hreached) hcancelled'
    rw [hskipped.1, hskipped.2, hskipped'.1, hskipped'.2]
    exact ⟨⟨rfl, he.skip Scope.aside_eq _ _⟩, rfl⟩
  | false =>
    exact accords_observer_entered length length' hobserver hnext hbehind
      ⟨hdone, hreached, hcancelled⟩ hsame

theorem accords_from (length length' : Nat) (hobserver : observer.Observes seen)
    {before : List Handler} (hunsighted : ∀ h ∈ before ++ next :: handlers, h.Unsighted seen)
    (hplace : index + before.length = place) :
    Accords place (Beside place index) seen (advanceFrom length (before ++ next :: handlers) index)
      (advanceFrom length' (before ++ observer :: next :: handlers) index)
      (momentsFrom length (before ++ next :: handlers) index)
      (momentsFrom length' (before ++ observer :: next :: handlers) index) := by
  induction before generalizing index with
  | nil =>
    obtain ⟨hnext, hbehind⟩ := List.forall_mem_cons.mp hunsighted
    obtain rfl : index = place := hplace
    exact accords_observer length length' hobserver hnext hbehind index
  | cons h rest ih =>
    obtain ⟨hfirst, hrest⟩ := List.forall_mem_cons.mp hunsighted
    rw [List.length_cons] at hplace
    have hsame : index = besidePlace place index := by
      rw [besidePlace, if_pos (by omega)]
    exact accords_cons hsame (ih hrest (by omega)) hfirst (lined_before (by omega))

theorem accords_before (length length' : Nat) (hunsighted : ∀ h ∈ handlers, h.Unsighted seen)
    (hplace : index + handlers.length ≤ place) :
    Accords place (Beside place index) seen (advanceFrom length handlers index)
      (advanceFrom length' handlers index) (momentsFrom length handlers index)
      (momentsFrom length' handlers index) := by
  induction handlers generalizing index with
  | nil => exact accords_nil _ _ _ _ _
  | cons h rest ih =>
    obtain ⟨hfirst, hrest⟩ := List.forall_mem_cons.mp hunsighted
    rw [List.length_cons] at hplace
    have hsame : index = besidePlace place index := by
      rw [besidePlace, if_pos (by omega)]
    exact accords_cons hsame (ih hrest (by omega)) hfirst (lined_before (by omega))

end

/-- The second chain is the first with an observer in front of the handler at `place`, or without
one, which is the same as an observer behind all handlers. -/
inductive Watched (seen : String → Prop) : Nat → List Handler → List Handler → Prop where
  | nowhere (chain : List Handler) : Watched seen chain.length chain chain
  | before (front : List Handler) {observer : Handler} (h : observer.Observes seen) (next : Handler)
      (behind : List Handler) :
      Watched seen front.length (front ++ next :: behind) (front ++ observer :: next :: behind)

theorem Watched.accords {chain chain' : List Handler} (h : Watched seen place chain chain')
    (hunsighted : ∀ h ∈ chain, h.Unsighted seen) {e e' : Execution} (he : e.Parallel Eq Eq seen e')
    (hstart : e.cursor = 0) :
    Concur Eq (Beside place 0) seen (advance chain e) (advance chain' e') ∧
      toldOfOthers place (moments chain' e') =
        (moments chain e).map (Moment.toldBeside place) := by
  have hcursor := he.cursor
  have hbeside : e.Parallel Eq (Beside place 0) seen e' := by
    refine ⟨he.scope, ?_, he.state, he.gauges⟩
    simp only [Beside]
    omega
  cases h with
  | nowhere => exact accords_before _ _ hunsighted (Nat.le_of_eq (Nat.zero_add _)) e e' hbeside
  | before front hobserver next behind =>
    exact accords_from _ _ hobserver hunsighted (Nat.zero_add _) e e' hbeside

end Chain

end RequestRouting

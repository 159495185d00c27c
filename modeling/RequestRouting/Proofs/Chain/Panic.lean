import RequestRouting.Proofs.Chain.Progress

/-!
# Chains behind a panic

An advance that is unwound by a panic does not complete the chain, and so whoever catches the panic
may have further handlers entered. No handler is entered behind a panic if those who catch one see
to it: they complete the chain themselves, or neither advance again nor report a success.
-/

set_option autoImplicit false

namespace RequestRouting

open ChainEvent

def ChainEvent.isPanic : ChainEvent → Bool
  | .left _ outcome => !outcome.returned
  | _ => false

/-- A behaviour that takes no more from its chain: it does not advance it, and it ends well only if
it has completed it. -/
def Program.Yields : Program → Prop
  | .finish outcome => outcome ≠ .ok
  | .read next => ∀ scope, (next scope).Yields
  | .write _ next => next.Yields
  | .gauge _ next => ∀ m, (next m).Yields
  | .inspect next => ∀ view, view.state ≠ .completed → (next view).Yields
  | .complete _ => True
  | .advance _ => False

/-- A behaviour that yields whenever it catches a panic. -/
def Program.YieldsToPanics : Program → Prop
  | .finish _ => True
  | .read next => ∀ scope, (next scope).YieldsToPanics
  | .write _ next => next.YieldsToPanics
  | .gauge _ next => ∀ m, (next m).YieldsToPanics
  | .inspect next => ∀ view, view.state ≠ .completed → (next view).YieldsToPanics
  | .complete _ => True
  | .advance next =>
    (∀ payload, (next (.panicked payload)).Yields) ∧ ∀ outcome, (next outcome).YieldsToPanics

def Handler.YieldsToPanics : Handler → Prop
  | .custom _ behaviour => behaviour.YieldsToPanics
  | _ => True

theorem Program.PassesPanics.yieldsToPanics {program : Program} (h : program.PassesPanics) :
    program.YieldsToPanics := by
  induction program with
  | finish outcome => trivial
  | read next ih => exact fun scope => ih scope (h scope)
  | write scope next ih => exact ih h
  | gauge meter next ih => exact fun scope => ih scope (h scope)
  | inspect next ih => exact fun view _ => ih view (h view)
  | complete next ih => trivial
  | advance next ih =>
    obtain ⟨hpanic, hnext⟩ := h
    refine ⟨fun payload => ?_, fun outcome => ih outcome (hnext outcome)⟩
    rw [hpanic payload]
    exact nofun

namespace Chain

def PanicEnds (trace : List ChainEvent) : Prop :=
  trace.Pairwise fun event later => event.isPanic → later.enteredAt? = none

instance (trace : List ChainEvent) : Decidable (PanicEnds trace) :=
  inferInstanceAs (Decidable (trace.Pairwise _))

section

variable {first second : List ChainEvent}

theorem PanicEnds.of_entries (h : entries first = []) : PanicEnds first := by
  refine List.pairwise_iff_forall_sublist.mpr fun {event later} hpair _ => ?_
  have hlater : later ∈ first := hpair.subset (List.mem_cons_of_mem _ List.mem_cons_self)
  exact List.filterMap_eq_nil_iff.mp h later hlater

theorem PanicEnds.append (hfirst : PanicEnds first) (hsecond : PanicEnds second)
    (h : first.any isPanic → entries second = []) : PanicEnds (first ++ second) := by
  refine List.pairwise_append.mpr ⟨hfirst, hsecond, fun event hevent later hlater hpanic => ?_⟩
  have hnone : entries second = [] := h (List.any_eq_true.mpr ⟨event, hevent, hpanic⟩)
  exact List.filterMap_eq_nil_iff.mp hnone later hlater

theorem PanicEnds.cons {event : ChainEvent} (hevent : event.isPanic = false)
    (h : PanicEnds first) : PanicEnds (event :: first) := by
  refine List.pairwise_cons.mpr ⟨fun later _ hpanic => ?_, h⟩
  rw [hevent] at hpanic
  exact absurd hpanic Bool.false_ne_true

end

/-- An advance that came to the result in the given events: if it comes back after a panic, the
chain is completed. -/
structure Stops (events : List ChainEvent) (result : Outcome × Execution) : Prop where
  ends : PanicEnds events
  settles : events.any isPanic → result.1.returned → result.2.state = .completed

structure Halts (events : List ChainEvent) (result : Outcome × Execution) : Prop where
  ends : PanicEnds events
  settles : events.any isPanic → result.1 = .ok → result.2.state = .completed

structure Halting (advance : Step) (within : Execution → List ChainEvent) : Prop where
  stops : ∀ e, Stops (within e) (advance e)
  idle : ∀ e, e.state = .completed → advance e = (.ok, ignore e)
  silent : ∀ e, e.state = .completed → entries (within e) = []

end Chain

section

open Chain

variable {advance : Step} {within : Execution → List ChainEvent}

namespace Chain

theorem Halts.nil (result : Outcome × Execution) : Halts [] result :=
  ⟨List.Pairwise.nil, nofun⟩

theorem Halting.entries_eq_nil (h : Halting advance within) {calls : List Execution}
    (hcalls : ∀ call ∈ calls, call.state = .completed) : entries (calls.flatMap within) = [] := by
  rw [entries, List.filterMap_flatMap]
  exact List.flatMap_eq_nil_iff.mpr fun call hcall => h.silent call (hcalls call hcall)

theorem Halting.halts_of_idle (h : Halting advance within) {calls : List Execution}
    {result : Outcome × Execution} (hidle : (∀ call ∈ calls, call.state = .completed) ∧
      (result.1 = .ok → result.2.state = .completed)) : Halts (calls.flatMap within) result :=
  ⟨.of_entries (h.entries_eq_nil hidle.1), fun _ => hidle.2⟩

theorem Halting.halts_cons (h : Halting advance within) {call : Execution}
    {more : List Execution} {result : Outcome × Execution}
    (hmore : Halts (more.flatMap within) result)
    (hspent : (within call).any isPanic → (∀ later ∈ more, later.state = .completed) ∧
      (result.1 = .ok → result.2.state = .completed)) :
    Halts ((call :: more).flatMap within) result := by
  rw [List.flatMap_cons]
  refine ⟨(h.stops call).ends.append hmore.ends fun hpanic =>
    h.entries_eq_nil (hspent hpanic).1, fun hpanic => ?_⟩
  rw [List.any_append, Bool.or_eq_true] at hpanic
  rcases hpanic with hpanic | hpanic
  · exact (hspent hpanic).2
  · exact hmore.settles hpanic

theorem Halting.halts_once (h : Halting advance within) {call : Execution}
    {result : Outcome × Execution} (hback : HandsBack advance call result) :
    Halts ([call].flatMap within) result := by
  rw [List.flatMap_singleton]
  refine ⟨(h.stops call).ends, fun hpanic hok => ?_⟩
  have hreturned : result.1.returned := congrArg Outcome.returned hok
  rcases hback.state with ⟨hcame, hsame⟩ | hdone
  · rw [hsame]
    exact (h.stops call).settles hpanic (hcame ▸ hreturned)
  · exact hdone

end Chain

theorem Program.idle_of_completed (length : Nat)
    (hidle : ∀ e, e.state = .completed → advance e = (.ok, ignore e)) (program : Program)
    {e : Execution} (h : e.state = .completed) :
    (∀ call ∈ program.calls length advance e, call.state = .completed) ∧
      ((program.run length advance e).1 = .ok →
        (program.run length advance e).2.state = .completed) :=
  ⟨program.calls_of_completed length hidle h, fun _ => (program.run_of_completed length hidle h).1⟩

theorem Program.idle_of_yields (length : Nat)
    (hidle : ∀ e, e.state = .completed → advance e = (.ok, ignore e)) {program : Program}
    (h : program.Yields) (e : Execution) :
    (∀ call ∈ program.calls length advance e, call.state = .completed) ∧
      ((program.run length advance e).1 = .ok →
        (program.run length advance e).2.state = .completed) := by
  induction program generalizing e with
  | finish outcome =>
    exact ⟨fun call hcall => absurd hcall List.not_mem_nil, fun hok => absurd hok h⟩
  | read next ih => exact ih _ (h _) e
  | write scope next ih => exact ih h _
  | gauge meter next ih => exact ih _ (h _) e
  | inspect next ih =>
    by_cases hdone : e.state = .completed
    · exact (next (e.view length)).idle_of_completed length hidle hdone
    · exact ih _ (h _ hdone) e
  | complete next ih => exact next.idle_of_completed length hidle rfl
  | advance next ih => exact h.elim

theorem Program.halts (length : Nat) (hhalting : Halting advance within) (program : Program)
    (hyields : program.YieldsToPanics) (e : Execution) :
    Halts ((program.calls length advance e).flatMap within) (program.run length advance e) := by
  have hidle := hhalting.idle
  induction program generalizing e with
  | finish outcome => exact .nil _
  | read next ih => exact ih _ (hyields _) e
  | write scope next ih => exact ih hyields _
  | gauge meter next ih => exact ih _ (hyields _) e
  | inspect next ih =>
    by_cases hdone : e.state = .completed
    · exact hhalting.halts_of_idle ((next (e.view length)).idle_of_completed length hidle hdone)
    · exact ih _ (hyields _ hdone) e
  | complete next ih => exact hhalting.halts_of_idle (next.idle_of_completed length hidle rfl)
  | advance next ih =>
    obtain ⟨hpanic, hnext⟩ := hyields
    have hsettles := (hhalting.stops e).settles
    rw [Program.calls, Program.run]
    refine hhalting.halts_cons (ih _ (hnext _) _) fun hwithin => ?_
    generalize advance e = result at hsettles ⊢
    obtain ⟨outcome, after⟩ := result
    cases outcome with
    | ok => exact (next .ok).idle_of_completed length hidle (hsettles hwithin rfl)
    | failed error =>
      exact (next (.failed error)).idle_of_completed length hidle (hsettles hwithin rfl)
    | panicked payload => exact Program.idle_of_yields length hidle (hpanic payload) after

theorem Handler.halts (length : Nat) (hhalting : Halting advance within) (handler : Handler)
    (hyields : handler.YieldsToPanics) (e : Execution) :
    Halts ((handler.calls length advance e).flatMap within) (handler.run length advance e) := by
  cases handler with
  | recovery exposeDetails => exact hhalting.halts_once (Recovery.handsBack exposeDetails e)
  | tracing => exact hhalting.halts_once (Tracing.handsBack e)
  | requestId => exact hhalting.halts_once (RequestIdHeader.handsBack e)
  | metrics meter => exact hhalting.halts_once (Metrics.handsBack meter e)
  | endpoint name serve => exact .nil _
  | custom name behaviour => exact behaviour.halts length hhalting hyields e

end

namespace Chain

theorem Halting.around {advance : Step} {within : Execution → List ChainEvent}
    (h : Halting advance within) (index : Nat) :
    Halting advance fun call => called index :: (within call ++
      [resumed index (advance call).1 (advance call).2.state]) where
  stops e :=
    { ends := .cons rfl ((h.stops e).ends.append (.of_entries rfl) fun _ => rfl)
      settles := fun hpanic => (h.stops e).settles (by simpa [isPanic] using hpanic) }
  idle := h.idle
  silent e hdone := by simp [h.silent e hdone, enteredAt?]

theorem Halts.stops {events : List ChainEvent} {outcome : Outcome} {after : Execution}
    (h : Halts events (outcome, after)) (index : Nat) :
    Stops (entered index :: (events ++ [left index outcome]))
      (outcome, leave index outcome after) where
  ends := .cons rfl (h.ends.append (.of_entries rfl) fun _ => rfl)
  settles hpanic hreturned := by
    cases outcome with
    | ok =>
      have hwithin : events.any isPanic := by simpa [isPanic, Outcome.returned] using hpanic
      exact leave_completes hreturned (.inr (h.settles hwithin rfl))
    | failed error => rfl
    | panicked payload => exact absurd hreturned Bool.false_ne_true

theorem Rests.stops {length index : Nat} {handlers : List Handler} {e : Execution}
    (h : Rests length handlers index e) :
    Stops (traceFrom length handlers index e) (advanceFrom length handlers index e) := by
  rw [h.trace]
  exact ⟨List.Pairwise.nil, nofun⟩

theorem halting_of_stops {length index : Nat} {handlers : List Handler}
    (h : ∀ e, Stops (traceFrom length handlers index e) (advanceFrom length handlers index e)) :
    Halting (advanceFrom length handlers index) (traceFrom length handlers index) :=
  ⟨h, fun _ => advanceFrom_of_completed,
    fun _ hdone => congrArg entries (traceFrom_of_completed hdone)⟩

theorem advanceFrom_stops (length : Nat) {handlers : List Handler}
    (hyields : ∀ h ∈ handlers, h.YieldsToPanics) (index : Nat) (e : Execution) :
    Stops (traceFrom length handlers index e) (advanceFrom length handlers index e) := by
  induction handlers generalizing index e with
  | nil => exact (rests_nil length index e).stops
  | cons h rest ih =>
    obtain ⟨hfirst, hrest⟩ := List.forall_mem_cons.mp hyields
    rcases Nat.lt_or_ge index e.cursor with hpassed | hreached
    · rw [(advanceFrom_of_passed hpassed).1, (advanceFrom_of_passed hpassed).2]
      exact ih hrest (index + 1) e
    · rcases rests_or_enters hreached with hrests | ⟨hadvance, htrace⟩
      · exact hrests.stops
      · have hbehind := (halting_of_stops (ih hrest (index + 1))).around index
        rw [hadvance, htrace]
        exact (h.halts length hbehind hfirst (enter h e)).stops index

/-- For a caller that may advance the chain again. The handlers may do what they like up to a panic,
and those that do not catch it may go on as they like. -/
theorem panic_ends (handlers : List Handler) (hyields : ∀ h ∈ handlers, h.YieldsToPanics)
    (caller : Program) (hcaller : caller.YieldsToPanics) (e : Execution) :
    Halts (callerTrace handlers caller e) (caller.run handlers.length (advance handlers) e) :=
  caller.halts handlers.length
    (halting_of_stops (advanceFrom_stops handlers.length hyields 0)) hcaller e

theorem panic_ends_of_complete :
    let again : Handler := .custom none (.advancing (.advancing (.finish .ok)))
    let catching : Handler :=
      .custom none (.advance fun _ => .complete (.advance fun _ => .finish .ok))
    let handlers : List Handler := [again, catching,
      .endpoint "fail" fun scope _ => (.panicked .other, scope),
      .endpoint "last" fun scope _ => (.ok, scope)]
    let caller : Program := .advance .finish
    let context : Context := { requestId := ⟨0⟩, method := .get, path := "/" }
    let e : Execution := { scope := { context } }
    (∀ h ∈ handlers, h.YieldsToPanics) ∧ caller.YieldsToPanics ∧
      Halts (callerTrace handlers caller e) (caller.run handlers.length (advance handlers) e) ∧
      callerTrace handlers caller e =
        [entered 0, called 0, entered 1, called 1, entered 2, left 2 (.panicked .other),
          resumed 1 (.panicked .other) .running, called 1, resumed 1 .ok .completed, left 1 .ok,
          resumed 0 .ok .completed, called 0, resumed 0 .ok .completed, left 0 .ok] := by
  intro again catching handlers caller context e
  have hyields : ∀ h ∈ handlers, h.YieldsToPanics := by
    intro h hmem
    simp only [handlers, List.mem_cons, List.not_mem_nil, or_false] at hmem
    rcases hmem with rfl | rfl | rfl | rfl
    · change (Program.finish .ok).advancing.advancing.YieldsToPanics
      exact Program.PassesPanics.yieldsToPanics (.advancing (.advancing trivial))
    · exact ⟨fun payload => trivial, fun outcome => trivial⟩
    · trivial
    · trivial
  have hcaller : caller.YieldsToPanics := ⟨fun payload => nofun, fun outcome => trivial⟩
  exact ⟨hyields, hcaller, panic_ends handlers hyields caller hcaller e, rfl⟩

/-- Without that a handler behind the panic is entered, by the one that has caught it or by one to
which it reports a success. -/
theorem entered_behind_panic :
    let again : Handler := .custom none (.advance fun _ => .advance fun _ => .finish .ok)
    let catching : Handler := .custom none (.advance fun _ => .finish .ok)
    let fail : Handler := .endpoint "fail" fun scope _ => (.panicked .other, scope)
    let last : Handler := .endpoint "last" fun scope _ => (.ok, scope)
    let context : Context := { requestId := ⟨0⟩, method := .get, path := "/" }
    let e : Execution := { scope := { context } }
    (trace [again, fail, last] e =
        [entered 0, called 0, entered 1, left 1 (.panicked .other),
          resumed 0 (.panicked .other) .running, called 0, entered 2, left 2 .ok,
          resumed 0 .ok .completed, left 0 .ok] ∧
      ¬ PanicEnds (trace [again, fail, last] e)) ∧
    trace [again, catching, fail, last] e =
        [entered 0, called 0, entered 1, called 1, entered 2, left 2 (.panicked .other),
          resumed 1 (.panicked .other) .running, left 1 .ok, resumed 0 .ok .running, called 0,
          entered 3, left 3 .ok, resumed 0 .ok .completed, left 0 .ok] ∧
      ¬ PanicEnds (trace [again, catching, fail, last] e) := by
  refine ⟨⟨rfl, ?_⟩, rfl, ?_⟩
  · decide
  · decide

end Chain

end RequestRouting

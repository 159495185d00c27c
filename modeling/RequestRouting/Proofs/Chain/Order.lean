import RequestRouting.Proofs.Chain.Journal
import RequestRouting.Proofs.Chain.Nesting

/-!
# The order of a chain

However the handlers of a chain go about it, they are entered one within the other, each at most
once, and a chain that comes back is completed.
-/

set_option autoImplicit false

namespace RequestRouting.Chain

open ChainEvent

/-- The advance enters no handler. -/
structure Rests (length : Nat) (handlers : List Handler) (index : Nat) (e : Execution) : Prop where
  state : (advanceFrom length handlers index e).2.state = .completed
  cursor : (advanceFrom length handlers index e).2.cursor = e.cursor
  invoked : (advanceFrom length handlers index e).2.invoked = e.invoked
  trace : traceFrom length handlers index e = []

def callEvents (length index : Nat) (rest : List Handler) (calls : List Execution) :
    List ChainEvent :=
  calls.flatMap fun call => called index :: (traceFrom length rest (index + 1) call ++
    [resumed index (advanceFrom length rest (index + 1) call).1
      (advanceFrom length rest (index + 1) call).2.state])

section

variable {length index : Nat} {h : Handler} {rest : List Handler} {e : Execution}

theorem rests_of_completed (length index : Nat) (handlers : List Handler)
    (hdone : e.state = .completed) :
    Rests length handlers index e := by
  refine ⟨?_, ?_, ?_, traceFrom_of_completed hdone⟩
  · rw [advanceFrom_of_completed hdone]
    exact hdone
  · rw [advanceFrom_of_completed hdone]
    rfl
  · rw [advanceFrom_of_completed hdone]
    exact e.invoked_ignore

theorem rests_nil (length index : Nat) (e : Execution) : Rests length [] index e := by
  by_cases hdone : e.state = .completed
  · exact rests_of_completed length index [] hdone
  · constructor <;> simp [advanceFrom, traceFrom, hdone, Execution.complete, Execution.invoked]

theorem rests_or_enters (hcursor : e.cursor ≤ index) :
    Rests length (h :: rest) index e ∨
      advanceFrom length (h :: rest) index e =
        ((h.run length (advanceFrom length rest (index + 1)) (enter h e)).1,
          leave index (h.run length (advanceFrom length rest (index + 1)) (enter h e)).1
            (h.run length (advanceFrom length rest (index + 1)) (enter h e)).2) ∧
      traceFrom length (h :: rest) index e =
        entered index :: (callEvents length index rest
          (h.calls length (advanceFrom length rest (index + 1)) (enter h e)) ++
            [left index (h.run length (advanceFrom length rest (index + 1)) (enter h e)).1]) := by
  have hreached : ¬ index < e.cursor := by omega
  by_cases hdone : e.state = .completed
  · exact .inl (rests_of_completed length index _ hdone)
  · cases hcancelled : e.context.isCancelled with
    | true =>
      refine .inl ⟨?_, ?_, ?_, ?_⟩
      · rw [advanceFrom, if_neg hdone, if_neg hreached, if_pos hcancelled]
        rfl
      · rw [advanceFrom, if_neg hdone, if_neg hreached, if_pos hcancelled]
        rfl
      · rw [advanceFrom, if_neg hdone, if_neg hreached, if_pos hcancelled]
        exact e.invoked_skip length
      · rw [traceFrom, if_neg hdone, if_neg hreached, if_pos hcancelled]
    | false =>
      have hlive : ¬ e.context.isCancelled = true := by simp [hcancelled]
      refine .inr ⟨?_, ?_⟩
      · rw [advanceFrom, if_neg hdone, if_neg hreached, if_neg hlive]
      · rw [traceFrom, if_neg hdone, if_neg hreached, if_neg hlive]
        rfl

theorem leave_cursor (index : Nat) (outcome : Outcome) (e : Execution) :
    (leave index outcome e).cursor = e.cursor := by
  cases outcome with
  | ok =>
    rw [leave]
    split <;> rfl
  | failed error => rfl
  | panicked payload => rfl

theorem leave_completes {outcome : Outcome} (hreturned : outcome.returned)
    (hdone : e.cursor = index + 1 ∨ e.state = .completed) :
    (leave index outcome e).state = .completed := by
  cases outcome with
  | ok =>
    rw [leave]
    rcases hdone with hcursor | hstate
    · rw [if_pos hcursor]
      rfl
    · split
      · rfl
      · exact hstate
  | failed error => rfl
  | panicked payload => exact absurd hreturned Bool.false_ne_true

theorem entries_callEvents (calls : List Execution) :
    entries (callEvents length index rest calls) =
      calls.flatMap fun call => entries (traceFrom length rest (index + 1) call) := by
  induction calls with
  | nil => rfl
  | cons call calls ih =>
    rw [callEvents, List.flatMap_cons, ← callEvents, entries_append, ih]
    simp [enteredAt?]

theorem callEvents_idle {calls : List Execution}
    (hcalls : ∀ call ∈ calls, call.state = .completed) :
    callEvents length index rest calls = idleCalls index calls.length := by
  induction calls with
  | nil => rfl
  | cons call calls ih =>
    have hdone : call.state = .completed := hcalls call List.mem_cons_self
    have hignored : (ignore call).state = .completed := hdone
    have hmore := ih fun later hlater => hcalls later (List.mem_cons_of_mem _ hlater)
    rw [callEvents, List.flatMap_cons, ← callEvents, hmore, traceFrom_of_completed hdone,
      advanceFrom_of_completed hdone, hignored]
    rfl

end

theorem conduct_of_enter (length : Nat) {index : Nat} {advance : Step} {h : Handler}
    {e : Execution} (hsettles : Settles (index + 1) advance) (hpasses : h.PassesPanics)
    (hcursor : e.cursor = index) :
    Conduct (index + 1) advance (h.calls length advance (enter h e))
      (h.run length advance (enter h e)) := by
  have hentered : (enter h e).cursor = index + 1 := congrArg (· + 1) hcursor
  exact h.conduct length hsettles hpasses hentered

/-- By induction on the handlers that are left: those behind a handler settle the chain for it, so
that its conduct is in order, and then it settles the chain itself. -/
theorem advanceFrom_settles (length : Nat) {handlers : List Handler}
    (hpasses : ∀ h ∈ handlers, h.PassesPanics) (index : Nat) :
    Settles index (advanceFrom length handlers index) := by
  refine ⟨?_, fun e => advanceFrom_of_completed⟩
  induction handlers generalizing index with
  | nil => exact fun e _ _ => (rests_nil length index e).state
  | cons h rest ih =>
    intro e hcursor hreturned
    obtain ⟨hfirst, hrest⟩ := List.forall_mem_cons.mp hpasses
    rcases rests_or_enters (Nat.le_of_eq hcursor) with hrests | ⟨hadvance, -⟩
    · exact hrests.state
    · have hsettles : Settles (index + 1) (advanceFrom length rest (index + 1)) :=
        ⟨ih hrest (index + 1), fun e => advanceFrom_of_completed⟩
      have hconduct := conduct_of_enter length hsettles hfirst hcursor
      rw [hadvance] at hreturned ⊢
      exact leave_completes hreturned (hconduct.cursor_or_completed hreturned)

theorem traceFrom_nested (length : Nat) {handlers : List Handler}
    (hpasses : ∀ h ∈ handlers, h.PassesPanics) {index : Nat} {e : Execution}
    (hcursor : e.cursor = index) :
    ∃ count ≤ handlers.length,
      (advanceFrom length handlers index e).2.cursor = index + count ∧
        Nested index count (traceFrom length handlers index e) := by
  induction handlers generalizing index e with
  | nil =>
    have hrests := rests_nil length index e
    refine ⟨0, Nat.le_refl _, hrests.cursor.trans hcursor, ?_⟩
    rw [hrests.trace]
    exact .none index
  | cons h rest ih =>
    obtain ⟨hfirst, hrest⟩ := List.forall_mem_cons.mp hpasses
    rcases rests_or_enters (Nat.le_of_eq hcursor) with hrests | ⟨hadvance, htrace⟩
    · refine ⟨0, Nat.zero_le _, hrests.cursor.trans hcursor, ?_⟩
      rw [hrests.trace]
      exact .none index
    · have hsettles := advanceFrom_settles length hrest (index + 1)
      have hconduct := conduct_of_enter length hsettles hfirst hcursor
      rw [hadvance, htrace, leave_cursor]
      generalize h.run length (advanceFrom length rest (index + 1)) (enter h e) = result
        at hconduct
      generalize h.calls length (advanceFrom length rest (index + 1)) (enter h e) = calls
        at hconduct
      cases hconduct with
      | idle hcalls hstill =>
        refine ⟨1, Nat.le_add_left 1 _, hstill, ?_⟩
        rw [callEvents_idle hcalls]
        exact .alone index _ _
      | @first call more _ hcall hmore hmoved hstate =>
        obtain ⟨count, hcount, hlast, hinner⟩ := ih hrest hcall
        refine ⟨count + 1, Nat.succ_le_succ hcount, by omega, ?_⟩
        rw [callEvents, List.flatMap_cons, ← callEvents, callEvents_idle hmore]
        have hnested := Nested.first more.length result.1 hinner
          (hsettles.completes call hcall)
        simpa using hnested

theorem invoked_advanceFrom (length : Nat) {handlers : List Handler}
    (hpasses : ∀ h ∈ handlers, h.PassesPanics) {index : Nat} {e : Execution}
    (hcursor : e.cursor = index) :
    (advanceFrom length handlers index e).2.invoked =
      e.invoked ++ entries (traceFrom length handlers index e) := by
  induction handlers generalizing index e with
  | nil =>
    have hrests := rests_nil length index e
    rw [hrests.invoked, hrests.trace, entries_nil, List.append_nil]
  | cons h rest ih =>
    obtain ⟨hfirst, hrest⟩ := List.forall_mem_cons.mp hpasses
    rcases rests_or_enters (Nat.le_of_eq hcursor) with hrests | ⟨hadvance, htrace⟩
    · rw [hrests.invoked, hrests.trace, entries_nil, List.append_nil]
    · have hsettles := advanceFrom_settles length hrest (index + 1)
      have hconduct := conduct_of_enter length hsettles hfirst hcursor
      have hcalls : ∀ call ∈ h.calls length (advanceFrom length rest (index + 1)) (enter h e),
          (advanceFrom length rest (index + 1) call).2.invoked =
            call.invoked ++ entries (traceFrom length rest (index + 1) call) := by
        intro call hcall
        rcases hconduct.call_cases hcall with hreached | hdone
        · exact ih hrest hreached
        · have hrests := rests_of_completed length (index + 1) rest hdone
          rw [hrests.invoked, hrests.trace, entries_nil, List.append_nil]
      have hrun := h.invoked_run
        (fun call => entries (traceFrom length rest (index + 1) call)) (enter h e) hcalls
      rw [hadvance, htrace, Execution.invoked_leave, hrun, Execution.invoked_enter, hcursor]
      simp [entries_callEvents, enteredAt?]

/-- How an execution of a chain goes that starts at the first handler. -/
structure InOrder (handlers : List Handler) (e : Execution) : Prop where
  completes : (advance handlers e).1.returned → (advance handlers e).2.state = .completed
  completes_within : ∀ index outcome state, resumed index outcome state ∈ trace handlers e →
    outcome.returned → state = .completed
  position_le : (advance handlers e).2.cursor ≤ handlers.length
  entries_eq : entries (trace handlers e) = List.range (advance handlers e).2.cursor
  invoked_eq : (advance handlers e).2.invoked =
    e.invoked ++ List.range (advance handlers e).2.cursor
  /-- When a handler is entered, the one in front of it has made its first call, and that call has
  not come back. -/
  within_first_call : ∀ index before rest,
    trace handlers e = before ++ entered (index + 1) :: rest →
      before.count (called index) = 1 ∧ before.countP (isResumed index) = 0
  exits_eq : exits (trace handlers e) = (List.range (advance handlers e).2.cursor).reverse
  /-- No handler is entered after a call has come back or was unwound. -/
  spent : ∀ index outcome state before rest,
    trace handlers e = before ++ resumed index outcome state :: rest → entries rest = []
  /-- Nor by a further advance of the chain, which does nothing at all. -/
  spent_after : (advance handlers e).1.returned →
    ∀ later, later.state = (advance handlers e).2.state →
      trace handlers later = [] ∧ advance handlers later = (.ok, ignore later)

/-- Whatever the handlers do, if they let panics through: they may advance as often as they like,
drop errors or make them up, complete the chain, cancel the request and panic. -/
theorem advance_inOrder (handlers : List Handler) (hpasses : ∀ h ∈ handlers, h.PassesPanics)
    (e : Execution) (hstart : e.cursor = 0) : InOrder handlers e := by
  have hsettles : Settles 0 (advance handlers) := advanceFrom_settles _ hpasses 0
  have hinvoked : (advance handlers e).2.invoked = e.invoked ++ entries (trace handlers e) :=
    invoked_advanceFrom _ hpasses hstart
  obtain ⟨count, hcount, hcursor, hnested⟩ := traceFrom_nested handlers.length hpasses hstart
  rw [Nat.zero_add] at hcursor
  change (advance handlers e).2.cursor = count at hcursor
  change Nested 0 count (trace handlers e) at hnested
  have hentries : entries (trace handlers e) = List.range (advance handlers e).2.cursor := by
    rw [hcursor, hnested.entries_eq, List.range_eq_range']
  refine
    { completes := hsettles.completes e hstart
      completes_within := fun _ _ _ hmem hreturned => hnested.completed_of_resumed hmem hreturned
      position_le := hcursor.symm ▸ hcount
      entries_eq := hentries
      invoked_eq := hinvoked.trans (by rw [hentries])
      within_first_call := fun index _ _ => hnested.within_first_call (Nat.zero_le index)
      exits_eq := ?_
      spent := fun _ _ _ _ _ => hnested.entries_after_resumed
      spent_after := ?_ }
  · rw [hcursor, hnested.exits_eq, List.range_eq_range']
  · intro hreturned later hlater
    rw [hsettles.completes e hstart hreturned] at hlater
    exact ⟨traceFrom_of_completed hlater, hsettles.idle later hlater⟩

theorem advance_inOrder_of_panic :
    let handlers : List Handler :=
      [.custom none (.advancing (.advancing (.finish .ok))), .recovery false,
        .endpoint "fail" fun scope _ => (.panicked .other, scope)]
    let context : Context := { requestId := ⟨0⟩, method := .get, path := "/" }
    let e : Execution := { scope := { context } }
    (∀ h ∈ handlers, h.PassesPanics) ∧ e.cursor = 0 ∧ InOrder handlers e ∧
      trace handlers e =
        [entered 0, called 0, entered 1, called 1, entered 2, left 2 (.panicked .other),
          resumed 1 (.panicked .other) .running, left 1 .ok, resumed 0 .ok .completed,
          called 0, resumed 0 .ok .completed, left 0 .ok] := by
  intro handlers context e
  have hpasses : ∀ h ∈ handlers, h.PassesPanics := by
    intro h hmem
    simp only [handlers, List.mem_cons, List.not_mem_nil, or_false] at hmem
    rcases hmem with rfl | rfl | rfl
    · exact .advancing (.advancing trivial)
    · trivial
    · trivial
  exact ⟨hpasses, rfl, advance_inOrder handlers hpasses e rfl, rfl⟩

end RequestRouting.Chain

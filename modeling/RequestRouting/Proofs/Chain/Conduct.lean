import RequestRouting.Proofs.Chain.Trace

/-!
# The conduct of handlers

What a handler can do to its chain when it lets panics through. Only the first advance that it
makes finds the chain still going; once that has come back the chain is completed, and a panic
leaves the handler no further advance.
-/

set_option autoImplicit false

namespace RequestRouting

/-- A behaviour that catches no panic: it passes each on as it came. -/
def Program.PassesPanics : Program → Prop
  | .finish _ => True
  | .read next => ∀ scope, (next scope).PassesPanics
  | .write _ next => next.PassesPanics
  | .gauge _ next => ∀ m, (next m).PassesPanics
  | .inspect next => ∀ view, (next view).PassesPanics
  | .complete next => next.PassesPanics
  | .advance next =>
    (∀ payload, next (.panicked payload) = .finish (.panicked payload)) ∧
      ∀ outcome, (next outcome).PassesPanics

def Program.advancing (next : Program) : Program :=
  .advance fun
    | .panicked payload => .finish (.panicked payload)
    | _ => next

theorem Program.PassesPanics.advancing {next : Program} (h : next.PassesPanics) :
    next.advancing.PassesPanics := by
  refine ⟨fun _ => rfl, fun outcome => ?_⟩
  cases outcome with
  | ok => exact h
  | failed error => exact h
  | panicked payload => trivial

/-- A handler whose own behaviour catches no panic. The built-in middleware is not restricted. -/
def Handler.PassesPanics : Handler → Prop
  | .custom _ behaviour => behaviour.PassesPanics
  | _ => True

namespace Chain

/-- An advance that completes the chain at `cursor` whenever it returns, and that does nothing in a
completed chain. -/
structure Settles (cursor : Nat) (advance : Step) : Prop where
  completes : ∀ e, e.cursor = cursor → (advance e).1.returned → (advance e).2.state = .completed
  idle : ∀ e, e.state = .completed → advance e = (.ok, ignore e)

/-- The conduct of a handler that was entered with the cursor at `cursor`, by its calls and what it
came to: either all of its calls were idle, or the first went on with the chain and the others
were idle. -/
inductive Conduct (cursor : Nat) (advance : Step) :
    List Execution → Outcome × Execution → Prop where
  | idle {calls : List Execution} {result : Outcome × Execution}
      (hcalls : ∀ call ∈ calls, call.state = .completed) (hcursor : result.2.cursor = cursor) :
      Conduct cursor advance calls result
  | first {call : Execution} {more : List Execution} {result : Outcome × Execution}
      (hcall : call.cursor = cursor) (hmore : ∀ later ∈ more, later.state = .completed)
      (hcursor : result.2.cursor = (advance call).2.cursor)
      (hstate : result.1.returned → result.2.state = .completed) :
      Conduct cursor advance (call :: more) result

theorem Conduct.cursor_or_completed {cursor : Nat} {advance : Step} {calls : List Execution}
    {result : Outcome × Execution} (h : Conduct cursor advance calls result)
    (hreturned : result.1.returned) :
    result.2.cursor = cursor ∨ result.2.state = .completed := by
  cases h with
  | idle hcalls hcursor => exact .inl hcursor
  | first hcall hmore hcursor hstate => exact .inr (hstate hreturned)

theorem Conduct.call_cases {cursor : Nat} {advance : Step} {calls : List Execution}
    {result : Outcome × Execution} (h : Conduct cursor advance calls result) {call : Execution}
    (hcall : call ∈ calls) : call.cursor = cursor ∨ call.state = .completed := by
  cases h with
  | idle hcalls hcursor => exact .inr (hcalls call hcall)
  | first hfirst hmore hcursor hstate =>
    rcases List.mem_cons.mp hcall with rfl | hlater
    · exact .inl hfirst
    · exact .inr (hmore call hlater)

end Chain

section

variable {cursor : Nat} {advance : Step}

theorem Program.calls_of_completed (length : Nat)
    (hidle : ∀ e, e.state = .completed → advance e = (.ok, Chain.ignore e)) (program : Program)
    {e : Execution} (h : e.state = .completed) :
    ∀ call ∈ program.calls length advance e, call.state = .completed := by
  induction program generalizing e with
  | finish outcome => exact fun call hcall => absurd hcall List.not_mem_nil
  | read next ih => exact ih _ h
  | write scope next ih => exact ih h
  | gauge meter next ih => exact ih _ h
  | inspect next ih => exact ih _ h
  | complete next ih => exact ih rfl
  | advance next ih =>
    have hignored : (Chain.ignore e).state = .completed := h
    intro call hcall
    rw [Program.calls, hidle e h] at hcall
    rcases List.mem_cons.mp hcall with rfl | hcall
    · exact h
    · exact ih _ hignored call hcall

theorem Program.run_of_completed (length : Nat)
    (hidle : ∀ e, e.state = .completed → advance e = (.ok, Chain.ignore e)) (program : Program)
    {e : Execution} (h : e.state = .completed) :
    (program.run length advance e).2.state = .completed ∧
      (program.run length advance e).2.cursor = e.cursor := by
  induction program generalizing e with
  | finish outcome => exact ⟨h, rfl⟩
  | read next ih => exact ih _ h
  | write scope next ih => exact ih h
  | gauge meter next ih => exact ih _ h
  | inspect next ih => exact ih _ h
  | complete next ih => exact ih rfl
  | advance next ih =>
    have hignored : (Chain.ignore e).state = .completed := h
    rw [Program.run, hidle e h]
    exact ih _ hignored

/-- By induction on the behaviour: up to its first advance the cursor stands still, and after it the
chain is completed or a panic goes through. -/
theorem Program.conduct (length : Nat) (hsettles : Chain.Settles cursor advance) (program : Program)
    (hpasses : program.PassesPanics) {e : Execution} (hcursor : e.cursor = cursor) :
    Chain.Conduct cursor advance (program.calls length advance e)
      (program.run length advance e) := by
  induction program generalizing e with
  | finish outcome => exact .idle (fun call hcall => absurd hcall List.not_mem_nil) hcursor
  | read next ih => exact ih _ (hpasses _) hcursor
  | write scope next ih => exact ih hpasses hcursor
  | gauge meter next ih => exact ih _ (hpasses _) hcursor
  | inspect next ih => exact ih _ (hpasses _) hcursor
  | complete next ih =>
    have hdone : e.complete.state = .completed := rfl
    have hrun := next.run_of_completed length hsettles.idle hdone
    exact .idle (next.calls_of_completed length hsettles.idle hdone) (hrun.2.trans hcursor)
  | advance next ih =>
    obtain ⟨hpanic, hnext⟩ := hpasses
    have hcompletes := hsettles.completes e hcursor
    rw [Program.calls, Program.run]
    generalize hadvance : advance e = result at hcompletes
    obtain ⟨outcome, after⟩ := result
    change Chain.Conduct cursor advance (e :: (next outcome).calls length advance after)
      ((next outcome).run length advance after)
    by_cases hreturned : outcome.returned
    · have hrun := (next outcome).run_of_completed length hsettles.idle (hcompletes hreturned)
      refine .first hcursor ((next outcome).calls_of_completed length hsettles.idle
        (hcompletes hreturned)) ?_ fun _ => hrun.1
      rw [hadvance]
      exact hrun.2
    · cases outcome with
      | ok => exact absurd rfl hreturned
      | failed error => exact absurd rfl hreturned
      | panicked payload =>
        rw [hpanic]
        refine .first hcursor (fun later hlater => absurd hlater List.not_mem_nil) ?_
          fun h => absurd h hreturned
        rw [hadvance]
        rfl

theorem RequestIdHeader.adopt_cursor (e : Execution) : (adopt e).cursor = e.cursor := by
  rw [adopt]
  split <;> rfl

/-- What a handler came to that advanced once: it comes back, and leaves the chain, as that advance
did, or it completes the chain. -/
structure Chain.HandsBack (advance : Step) (call : Execution) (result : Outcome × Execution) :
    Prop where
  cursor : result.2.cursor = (advance call).2.cursor
  state : result.1.returned = (advance call).1.returned ∧
    result.2.state = (advance call).2.state ∨ result.2.state = .completed

theorem Recovery.handsBack (exposeDetails : Bool) (e : Execution) :
    Chain.HandsBack advance e (Recovery.run exposeDetails advance e) := by
  rw [Recovery.run]
  constructor <;> rcases advance e with ⟨_ | error | payload, after⟩ <;>
    simp [Execution.respond, Execution.mapContext, Execution.log, Execution.complete,
      Outcome.returned]

theorem Tracing.handsBack (e : Execution) :
    Chain.HandsBack advance (e.log (opening e)) (Tracing.run advance e) := by
  rw [Tracing.run]
  constructor <;> rcases advance (e.log (opening e)) with ⟨_ | error | payload, after⟩ <;>
    simp [Outcome.returned]

theorem RequestIdHeader.handsBack (e : Execution) :
    Chain.HandsBack advance (adopt e) (RequestIdHeader.run advance e) := by
  rw [RequestIdHeader.run]
  constructor <;> rcases advance (adopt e) with ⟨_ | error | payload, after⟩ <;>
    simp [Outcome.returned, stamp, Execution.mapContext]

theorem Metrics.handsBack (meter : String) (e : Execution) :
    Chain.HandsBack advance (e.updateMeter meter fun m => m.enter e.context.pattern)
      (Metrics.run meter advance e) := by
  rw [Metrics.run]
  constructor <;>
    rcases advance (e.updateMeter meter fun m => m.enter e.context.pattern) with
      ⟨_ | error | payload, after⟩ <;>
    simp [Outcome.returned, Execution.updateMeter]

theorem Chain.Conduct.once {call : Execution} {result : Outcome × Execution}
    (hsettles : Settles cursor advance) (hcall : call.cursor = cursor)
    (hback : HandsBack advance call result) : Conduct cursor advance [call] result := by
  refine .first hcall (fun later hlater => absurd hlater List.not_mem_nil) hback.cursor ?_
  intro hreturned
  rcases hback.state with ⟨hcame, hsame⟩ | hdone
  · rw [hsame]
    exact hsettles.completes call hcall (hcame ▸ hreturned)
  · exact hdone

theorem Handler.conduct (length : Nat) (hsettles : Chain.Settles cursor advance) (handler : Handler)
    (hpasses : handler.PassesPanics) {e : Execution} (hcursor : e.cursor = cursor) :
    Chain.Conduct cursor advance (handler.calls length advance e)
      (handler.run length advance e) := by
  cases handler with
  | recovery exposeDetails => exact .once hsettles hcursor (Recovery.handsBack exposeDetails e)
  | tracing => exact .once hsettles hcursor (Tracing.handsBack e)
  | requestId =>
    exact .once hsettles ((RequestIdHeader.adopt_cursor e).trans hcursor)
      (RequestIdHeader.handsBack e)
  | metrics meter => exact .once hsettles hcursor (Metrics.handsBack meter e)
  | endpoint name serve =>
    exact .idle (fun call hcall => absurd hcall List.not_mem_nil) hcursor
  | custom name behaviour => exact behaviour.conduct length hsettles hpasses hcursor

end

end RequestRouting

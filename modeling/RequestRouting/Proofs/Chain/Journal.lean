import RequestRouting.Proofs.Chain.Conduct

/-!
# Entries in the journal

The journal of a run reports the handlers that its trace has entered, in the same order.
-/

set_option autoImplicit false

namespace RequestRouting

def Event.invoked? : Event → Option Nat
  | .entry _ message fields =>
    if message = "Invoking handler" then
      match fields.lookup "position" with
      | some (.number index) => some index
      | _ => none
    else none
  | _ => none

def Execution.invoked (e : Execution) : List Nat := e.journal.filterMap Event.invoked?

namespace Execution

theorem invoked_log (e : Execution) (event : Event) :
    (e.log event).invoked = e.invoked ++ event.invoked?.toList := by
  rw [invoked, log, List.filterMap_append]
  cases h : event.invoked? <;> simp [invoked, h]

theorem invoked_log_of_none {e : Execution} {event : Event} (h : event.invoked? = none) :
    (e.log event).invoked = e.invoked := by
  rw [invoked_log, h, Option.toList_none, List.append_nil]

theorem invoked_enter (h : Handler) (e : Execution) :
    (Chain.enter h e).invoked = e.invoked ++ [e.cursor] :=
  invoked_log _ _

theorem invoked_ignore (e : Execution) : (Chain.ignore e).invoked = e.invoked :=
  invoked_log_of_none rfl

theorem invoked_skip (length : Nat) (e : Execution) : (Chain.skip length e).invoked = e.invoked :=
  invoked_log_of_none rfl

theorem invoked_leave (index : Nat) (outcome : Outcome) (e : Execution) :
    (Chain.leave index outcome e).invoked = e.invoked := by
  cases outcome with
  | ok =>
    rw [Chain.leave]
    split <;> rfl
  | failed error => rfl
  | panicked payload => rfl

end Execution

section

variable {length : Nat} {advance : Step}

theorem Program.invoked_run (entered : Execution → List Nat) (program : Program) (e : Execution)
    (hadvance : ∀ call ∈ program.calls length advance e,
      (advance call).2.invoked = call.invoked ++ entered call) :
    (program.run length advance e).2.invoked =
      e.invoked ++ (program.calls length advance e).flatMap entered := by
  induction program generalizing e with
  | finish outcome => exact (List.append_nil _).symm
  | read next ih => exact ih _ e hadvance
  | write scope next ih => exact ih _ hadvance
  | gauge meter next ih => exact ih _ e hadvance
  | inspect next ih => exact ih _ e hadvance
  | complete next ih => exact ih _ hadvance
  | advance next ih =>
    have hfirst := hadvance e List.mem_cons_self
    rw [Program.calls, List.flatMap_cons, ← List.append_assoc, ← hfirst]
    exact ih _ _ fun call hcall => hadvance call (List.mem_cons_of_mem _ hcall)

theorem Recovery.invoked_run (exposeDetails : Bool) (e : Execution) :
    (Recovery.run exposeDetails advance e).2.invoked = (advance e).2.invoked := by
  rw [Recovery.run]
  rcases advance e with ⟨_ | error | payload, after⟩
  · rfl
  · refine Execution.invoked_log_of_none ?_
    rw [errorEvent]
    split <;> rfl
  · exact Execution.invoked_log_of_none rfl

theorem Tracing.invoked_closing (e : Execution) (status : Nat) :
    ({ e with journal := e.journal ++ closing e status } : Execution).invoked = e.invoked :=
  (List.filterMap_append).trans (List.append_nil _)

theorem Tracing.invoked_run (e : Execution) :
    (Tracing.run advance e).2.invoked = (advance (e.log (opening e))).2.invoked := by
  rw [Tracing.run]
  rcases advance (e.log (opening e)) with ⟨_ | error | payload, after⟩
  · exact invoked_closing after _
  · exact invoked_closing after _
  · rfl

theorem RequestIdHeader.invoked_adopt (e : Execution) : (adopt e).invoked = e.invoked := by
  rw [adopt]
  split
  · rfl
  · rfl
  · exact Execution.invoked_log_of_none rfl

theorem RequestIdHeader.invoked_run (e : Execution) :
    (RequestIdHeader.run advance e).2.invoked = (advance (adopt e)).2.invoked := by
  rw [RequestIdHeader.run]
  rcases advance (adopt e) with ⟨_ | error | payload, after⟩ <;> rfl

theorem Metrics.invoked_run (meter : String) (e : Execution) :
    (Metrics.run meter advance e).2.invoked =
      (advance (e.updateMeter meter fun m => m.enter e.context.pattern)).2.invoked := by
  rw [Metrics.run]
  rcases advance (e.updateMeter meter fun m => m.enter e.context.pattern) with
    ⟨_ | error | payload, after⟩ <;> rfl

/-- A handler reports no entry by itself: all that it adds to the journal's entries comes from its
calls. -/
theorem Handler.invoked_run (entered : Execution → List Nat) (handler : Handler) (e : Execution)
    (hadvance : ∀ call ∈ handler.calls length advance e,
      (advance call).2.invoked = call.invoked ++ entered call) :
    (handler.run length advance e).2.invoked =
      e.invoked ++ (handler.calls length advance e).flatMap entered := by
  cases handler with
  | recovery exposeDetails =>
    have hcall := hadvance _ List.mem_cons_self
    rw [Handler.calls, List.flatMap_singleton, ← hcall]
    exact Recovery.invoked_run exposeDetails e
  | tracing =>
    have hcall := hadvance _ List.mem_cons_self
    rw [Execution.invoked_log_of_none rfl] at hcall
    rw [Handler.calls, List.flatMap_singleton, ← hcall]
    exact Tracing.invoked_run e
  | requestId =>
    have hcall := hadvance _ List.mem_cons_self
    rw [RequestIdHeader.invoked_adopt] at hcall
    rw [Handler.calls, List.flatMap_singleton, ← hcall]
    exact RequestIdHeader.invoked_run e
  | metrics meter =>
    have hcall := hadvance _ List.mem_cons_self
    rw [Handler.calls, List.flatMap_singleton]
    exact (Metrics.invoked_run meter e).trans hcall
  | endpoint name serve => exact (List.append_nil _).symm
  | custom name behaviour => exact behaviour.invoked_run entered e hadvance

end

end RequestRouting

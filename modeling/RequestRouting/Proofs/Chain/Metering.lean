import RequestRouting.Chain
import RequestRouting.Proofs.SortedFields

/-!
# Meters along a chain

What handlers do to a meter: only the middleware that counts on it changes it.
-/

set_option autoImplicit false

namespace RequestRouting

theorem Meters.get_update (meters : Meters) (name other : String) (f : Meter → Meter) :
    (meters.update name f).get other = if other = name then f (meters.get name) else
      meters.get other := by
  rw [Meters.get, Meters.update, Json.lookup_putField]
  split <;> rfl

namespace Meter

def isClientError (status : Nat) : Bool := 400 ≤ status && status ≤ 499

def isServerError (status : Nat) : Bool := 500 ≤ status && status ≤ 599

theorem answer_counts (m : Meter) (status : Nat) :
    (m.answer status).requests = m.requests ∧
      (m.answer status).clientErrors = m.clientErrors + (if isClientError status then 1 else 0) ∧
      (m.answer status).serverErrors =
        m.serverErrors + (if isServerError status then 1 else 0) := by
  rw [answer]
  by_cases hclient : 400 ≤ status ∧ status ≤ 499
  · have hserver : ¬ 500 ≤ status := by omega
    simp [isClientError, isServerError, hclient, hserver]
  · rw [if_neg hclient]
    by_cases hserver : 500 ≤ status ∧ status ≤ 599
    · have hlarge : ¬ status ≤ 499 := by omega
      simp [isClientError, isServerError, hserver, hlarge]
    · rw [if_neg hserver]
      refine ⟨rfl, ?_, ?_⟩
      · simpa [isClientError] using hclient
      · simpa [isServerError] using hserver

end Meter

def Handler.Spares (meter : String) : Handler → Prop
  | .metrics other => meter ≠ other
  | _ => True

def Step.Spares (meter : String) (step : Step) : Prop :=
  ∀ e, (step e).2.meters.get meter = e.meters.get meter

section

variable {meter : String} {length : Nat} {advance : Step}

theorem Program.spares (h : Step.Spares meter advance) (program : Program) :
    Step.Spares meter (program.run length advance) := by
  intro e
  induction program generalizing e with
  | finish outcome => rfl
  | read next ih => exact ih _ e
  | write scope next ih => exact ih _
  | gauge meter next ih => exact ih _ e
  | inspect next ih => exact ih _ e
  | complete next ih => exact ih _
  | advance next ih =>
    rw [Program.run]
    exact (ih _ _).trans (h e)

theorem Recovery.run_meters (exposeDetails : Bool) (e : Execution) :
    (Recovery.run exposeDetails advance e).2.meters = (advance e).2.meters := by
  rw [Recovery.run]
  rcases advance e with ⟨_ | error | payload, after⟩ <;> rfl

theorem Tracing.run_meters (e : Execution) :
    (Tracing.run advance e).2.meters = (advance (e.log (opening e))).2.meters := by
  rw [Tracing.run]
  rcases advance (e.log (opening e)) with ⟨_ | error | payload, after⟩ <;> rfl

theorem RequestIdHeader.run_meters (e : Execution) :
    (RequestIdHeader.run advance e).2.meters = (advance (adopt e)).2.meters := by
  rw [RequestIdHeader.run]
  rcases advance (adopt e) with ⟨_ | error | payload, after⟩ <;> rfl

theorem RequestIdHeader.adopt_meters (e : Execution) : (adopt e).meters = e.meters := by
  rw [adopt]
  split <;> rfl

theorem Execution.updateMeter_get_self (meter : String) (e : Execution) (f : Meter → Meter) :
    (e.updateMeter meter f).meters.get meter = f (e.meters.get meter) := by
  rw [updateMeter, Meters.get_update, if_pos rfl]

theorem Execution.updateMeter_get_of_ne {other : String} (h : meter ≠ other) (e : Execution)
    (f : Meter → Meter) : (e.updateMeter other f).meters.get meter = e.meters.get meter := by
  rw [updateMeter, Meters.get_update, if_neg h]

theorem Metrics.run_spares {other : String} (hne : meter ≠ other) (h : Step.Spares meter advance) :
    Step.Spares meter (Metrics.run other advance) := by
  intro e
  have hcall := h (e.updateMeter other fun m => m.enter e.context.pattern)
  rw [e.updateMeter_get_of_ne hne] at hcall
  rw [Metrics.run, ← hcall]
  rcases advance (e.updateMeter other fun m => m.enter e.context.pattern) with
    ⟨_ | error | payload, after⟩
  · exact after.updateMeter_get_of_ne hne _
  · exact after.updateMeter_get_of_ne hne _
  · rfl

theorem Handler.spares (h : Step.Spares meter advance) {handler : Handler}
    (hspares : handler.Spares meter) : Step.Spares meter (handler.run length advance) := by
  intro e
  cases handler with
  | recovery exposeDetails =>
    rw [Handler.run, Recovery.run_meters]
    exact h e
  | tracing =>
    rw [Handler.run, Tracing.run_meters]
    exact h _
  | requestId =>
    rw [Handler.run, RequestIdHeader.run_meters, ← RequestIdHeader.adopt_meters e]
    exact h _
  | metrics other => exact Metrics.run_spares hspares h e
  | endpoint name serve => rfl
  | custom name behaviour => exact behaviour.spares h e

theorem Chain.leave_meters (index : Nat) (outcome : Outcome) (e : Execution) :
    (leave index outcome e).meters = e.meters := by
  cases outcome with
  | ok =>
    rw [leave]
    split <;> rfl
  | failed error => rfl
  | panicked payload => rfl

theorem Chain.advanceFrom_spares {handlers : List Handler} (h : ∀ h' ∈ handlers, h'.Spares meter)
    (index : Nat) : Step.Spares meter (advanceFrom length handlers index) := by
  induction handlers generalizing index with
  | nil =>
    intro e
    rw [advanceFrom]
    split <;> rfl
  | cons first rest ih =>
    obtain ⟨hfirst, hrest⟩ := List.forall_mem_cons.mp h
    intro e
    rw [advanceFrom]
    split
    · rfl
    · split
      · exact ih hrest (index + 1) e
      · split
        · rfl
        · change (leave index _ _).meters.get meter = _
          rw [leave_meters]
          exact first.spares (ih hrest (index + 1)) hfirst (enter first e)

end

end RequestRouting

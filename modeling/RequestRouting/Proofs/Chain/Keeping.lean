import RequestRouting.Proofs.Chain.Stations

/-!
# What handlers keep of the context

A relation between contexts is kept by a handler if all that it writes is related to what it found.
The chain and the built-in middleware change at most the response and the identifier.
-/

set_option autoImplicit false

namespace RequestRouting

def Program.Keeps (R : Context → Context → Prop) (length : Nat) (advance : Step) :
    Program → Execution → Prop
  | .finish _, _ => True
  | .read next, e => (next e.scope).Keeps R length advance e
  | .write scope next, e =>
    R e.context scope.context ∧ next.Keeps R length advance { e with scope := scope }
  | .gauge meter next, e => (next (e.gauges meter)).Keeps R length advance e
  | .inspect next, e => (next (e.view length)).Keeps R length advance e
  | .complete next, e => next.Keeps R length advance e.complete
  | .advance next, e => (next (advance e).1).Keeps R length advance (advance e).2

/-- A handler that keeps the relation whatever its advances come to. The built-in middleware is not
restricted. -/
def Handler.Keeps (R : Context → Context → Prop) : Handler → Prop
  | .endpoint _ serve => ∀ scope gauges, R scope.context (serve scope gauges).2.context
  | .custom _ behaviour => ∀ length advance e, behaviour.Keeps R length advance e
  | _ => True

/-- A relation that is kept where at most the response and the identifier are changed. -/
structure Context.Lasting (R : Context → Context → Prop) : Prop where
  refl : ∀ c, R c c
  respond : ∀ c response, R c { c with response := response }
  identify : ∀ c id, R c { c with requestId := id }

section

variable {advance : Step}

def Chain.HandsOn (advance : Step) (call : Execution) (result : Outcome × Execution) : Prop :=
  ∃ response, result.2.context = { (advance call).2.context with response := response }

theorem Recovery.handsOn (exposeDetails : Bool) (e : Execution) :
    Chain.HandsOn advance e (Recovery.run exposeDetails advance e) := by
  rw [Chain.HandsOn, Recovery.run]
  rcases advance e with ⟨_ | error | payload, after⟩ <;> exact ⟨_, rfl⟩

theorem Tracing.handsOn (e : Execution) :
    Chain.HandsOn advance (e.log (opening e)) (Tracing.run advance e) := by
  rw [Chain.HandsOn, Tracing.run]
  rcases advance (e.log (opening e)) with ⟨_ | error | payload, after⟩ <;> exact ⟨_, rfl⟩

theorem RequestIdHeader.handsOn (e : Execution) :
    Chain.HandsOn advance (adopt e) (RequestIdHeader.run advance e) := by
  rw [Chain.HandsOn, RequestIdHeader.run]
  rcases advance (adopt e) with ⟨_ | error | payload, after⟩ <;> exact ⟨_, rfl⟩

theorem Metrics.handsOn (meter : String) (e : Execution) :
    Chain.HandsOn advance (e.updateMeter meter fun m => m.enter e.context.pattern)
      (Metrics.run meter advance e) := by
  rw [Chain.HandsOn, Metrics.run]
  rcases advance (e.updateMeter meter fun m => m.enter e.context.pattern) with
    ⟨_ | error | payload, after⟩ <;> exact ⟨_, rfl⟩

theorem RequestIdHeader.adopt_context (e : Execution) :
    ∃ id, (adopt e).context = { e.context with requestId := id } := by
  rw [adopt]
  split <;> exact ⟨_, rfl⟩

end

end RequestRouting

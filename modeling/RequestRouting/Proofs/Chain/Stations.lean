import RequestRouting.Proofs.Chain.Order

/-!
# Stations of a run

All executions that a run of a chain passes through, whatever its handlers do and whoever catches
their panics. From each station to the next the chain stands still, is completed, or enters the
handler at its cursor.
-/

set_option autoImplicit false

namespace RequestRouting

/-- The executions that a behaviour passes through, given those within an advance. -/
def Program.stations (length : Nat) (advance : Step) (within : Execution → List Execution) :
    Program → Execution → List Execution
  | .finish _, _ => []
  | .read next, e => (next e.scope).stations length advance within e
  | .write scope next, e =>
    { e with scope := scope } :: next.stations length advance within { e with scope := scope }
  | .gauge meter next, e => (next (e.gauges meter)).stations length advance within e
  | .inspect next, e => (next (e.view length)).stations length advance within e
  | .complete next, e => e.complete :: next.stations length advance within e.complete
  | .advance next, e =>
    within e ++ (next (advance e).1).stations length advance within (advance e).2

def Handler.stations (length : Nat) (advance : Step) (within : Execution → List Execution) :
    Handler → Execution → List Execution
  | .custom _ behaviour, e => behaviour.stations length advance within e
  | h, e => (h.calls length advance e).flatMap (fun call => call :: within call) ++
      [(h.run length advance e).2]

namespace Chain

def stationsFrom (length : Nat) : List Handler → Nat → Execution → List Execution
  | [], _, e => [if e.state = .completed then ignore e else e.complete]
  | h :: rest, index, e =>
    if e.state = .completed then [ignore e]
    else if index < e.cursor then stationsFrom length rest (index + 1) e
    else if e.context.isCancelled then [skip length e]
    else
      let advance : Step := fun e => advanceFrom length rest (index + 1) e
      let result := h.run length advance (enter h e)
      enter h e ::
        (h.stations length advance (fun call => stationsFrom length rest (index + 1) call)
          (enter h e) ++ [leave index result.1 result.2])

def stations (handlers : List Handler) (e : Execution) : List Execution :=
  stationsFrom handlers.length handlers 0 e

/-- What one step does to a chain. -/
inductive Moves (length : Nat) (e after : Execution) : Prop where
  | stays (hcursor : after.cursor = e.cursor) (hstate : after.state = e.state)
      (hinvoked : after.invoked = e.invoked)
  | completes (hcursor : after.cursor = e.cursor) (hstate : after.state = .completed)
      (hinvoked : after.invoked = e.invoked)
  | enters (hlive : e.state ≠ .completed) (hroom : e.cursor < length)
      (hcursor : after.cursor = e.cursor + 1) (hstate : after.state = .running)
      (hinvoked : after.invoked = e.invoked ++ [e.cursor])

inductive Goes (length : Nat) : Execution → List Execution → Execution → Prop where
  | done (e : Execution) : Goes length e [] e
  | step {e next last : Execution} {more : List Execution} (hmove : Moves length e next)
      (hmore : Goes length next more last) : Goes length e (next :: more) last

namespace Goes

variable {length : Nat} {e middle last : Execution} {first second : List Execution}

theorem one (h : Moves length e last) : Goes length e [last] last := .step h (.done last)

theorem append (h : Goes length e first middle) (h' : Goes length middle second last) :
    Goes length e (first ++ second) last := by
  induction h with
  | done e => exact h'
  | step hmove _ ih => exact .step hmove (ih h')

theorem all {P : Execution → Prop} (hstep : ∀ {e next}, Moves length e next → P e → P next)
    (h : Goes length e first last) (he : P e) : (∀ s ∈ first, P s) ∧ P last := by
  induction h with
  | done e => exact ⟨fun s hs => absurd hs List.not_mem_nil, he⟩
  | step hmove _ ih =>
    obtain ⟨hmore, hlast⟩ := ih (hstep hmove he)
    exact ⟨List.forall_mem_cons.mpr ⟨hstep hmove he, hmore⟩, hlast⟩

end Goes

theorem Moves.cursor_le {length : Nat} {e after : Execution} (h : Moves length e after) :
    e.cursor ≤ after.cursor := by
  cases h with
  | stays hcursor => omega
  | completes hcursor => omega
  | enters _ _ hcursor => omega

theorem Goes.cursor_le {length : Nat} {e last : Execution} {more : List Execution}
    (h : Goes length e more last) : e.cursor ≤ last.cursor :=
  (h.all (P := fun s => e.cursor ≤ s.cursor) (fun hmove hle => Nat.le_trans hle hmove.cursor_le)
    (Nat.le_refl _)).2

def Carries (length cursor : Nat) (advance : Step) (within : Execution → List Execution) : Prop :=
  ∀ e, cursor ≤ e.cursor → Goes length e (within e) (advance e).2

end Chain

section

open Chain

variable {length cursor : Nat} {advance : Step} {within : Execution → List Execution}

theorem Program.goes (hcarries : Carries length cursor advance within) (program : Program)
    {e : Execution} (he : cursor ≤ e.cursor) :
    Goes length e (program.stations length advance within e)
      (program.run length advance e).2 := by
  induction program generalizing e with
  | finish outcome => exact .done e
  | read next ih => exact ih _ he
  | write scope next ih => exact .step (.stays rfl rfl rfl) (ih he)
  | gauge meter next ih => exact ih _ he
  | inspect next ih => exact ih _ he
  | complete next ih => exact .step (.completes rfl rfl rfl) (ih he)
  | advance next ih =>
    have hwithin := hcarries e he
    exact hwithin.append (ih _ (Nat.le_trans he hwithin.cursor_le))

theorem RequestIdHeader.moves_adopt (e : Execution) : Moves length e (adopt e) := by
  refine .stays (adopt_cursor e) ?_ (invoked_adopt e)
  rw [adopt]
  split <;> rfl

theorem Chain.HandsBack.goes {e call : Execution} {result : Outcome × Execution}
    (h : HandsBack advance call result) (hcarries : Carries length cursor advance within)
    (he : cursor ≤ e.cursor) (hcall : Moves length e call)
    (hinvoked : result.2.invoked = (advance call).2.invoked) :
    Goes length e ([call].flatMap (fun call => call :: within call) ++ [result.2]) result.2 := by
  have hlast : Moves length (advance call).2 result.2 := by
    rcases h.state with ⟨-, hsame⟩ | hdone
    · exact .stays h.cursor hsame hinvoked
    · exact .completes h.cursor hdone hinvoked
  rw [List.flatMap_singleton, List.cons_append]
  exact .step hcall ((hcarries call (Nat.le_trans he hcall.cursor_le)).append (.one hlast))

theorem Handler.goes (hcarries : Carries length cursor advance within) (handler : Handler)
    {e : Execution} (he : cursor ≤ e.cursor) :
    Goes length e (handler.stations length advance within e)
      (handler.run length advance e).2 := by
  cases handler with
  | recovery exposeDetails =>
    exact (Recovery.handsBack exposeDetails e).goes hcarries he (.stays rfl rfl rfl)
      (Recovery.invoked_run exposeDetails e)
  | tracing =>
    exact (Tracing.handsBack e).goes hcarries he
      (.stays rfl rfl (Execution.invoked_log_of_none rfl)) (Tracing.invoked_run e)
  | requestId =>
    exact (RequestIdHeader.handsBack e).goes hcarries he (RequestIdHeader.moves_adopt e)
      (RequestIdHeader.invoked_run e)
  | metrics meter =>
    exact (Metrics.handsBack meter e).goes hcarries he (.stays rfl rfl rfl)
      (Metrics.invoked_run meter e)
  | endpoint name serve => exact .one (.stays rfl rfl rfl)
  | custom name behaviour => exact behaviour.goes hcarries he

end

namespace Chain

theorem moves_leave (length index : Nat) (outcome : Outcome) (e : Execution) :
    Moves length e (leave index outcome e) := by
  have hinvoked := e.invoked_leave index outcome
  cases outcome with
  | ok =>
    rw [leave] at hinvoked ⊢
    split
    · exact .completes rfl rfl rfl
    · exact .stays rfl rfl rfl
  | failed error => exact .completes rfl rfl hinvoked
  | panicked payload => exact .stays rfl rfl hinvoked

theorem advanceFrom_carries {length : Nat} (handlers : List Handler) {index : Nat}
    (hlength : index + handlers.length ≤ length) :
    Carries length index (advanceFrom length handlers index)
      (stationsFrom length handlers index) := by
  induction handlers generalizing index with
  | nil =>
    intro e _
    rw [advanceFrom, stationsFrom]
    refine .one ?_
    split
    · exact .stays rfl rfl e.invoked_ignore
    · exact .completes rfl rfl rfl
  | cons h rest ih =>
    rw [List.length_cons] at hlength
    have hcarries : Carries length (index + 1) (advanceFrom length rest (index + 1))
        (stationsFrom length rest (index + 1)) := ih (by omega)
    intro e he
    rw [advanceFrom, stationsFrom]
    split
    · exact .one (.stays rfl rfl e.invoked_ignore)
    · rename_i hlive
      split
      · rename_i hreached
        exact hcarries e hreached
      · split
        · exact .one (.completes rfl rfl (e.invoked_skip length))
        · have hentered : index + 1 ≤ (enter h e).cursor := Nat.succ_le_succ he
          refine .step (.enters hlive (by omega) rfl rfl (e.invoked_enter h)) ?_
          exact (h.goes hcarries hentered).append (.one (moves_leave length index _ _))

end Chain

end RequestRouting

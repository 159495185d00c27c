import RequestRouting.Proofs.Chain.Stations

/-!
# The progress of a chain

However its handlers behave, those that catch panics and go on among them, a chain only goes
forward: at every station its cursor is the number of handlers entered so far, and neither the
cursor nor the state ever goes back.
-/

set_option autoImplicit false

namespace RequestRouting

open ChainEvent

def ChainState.rank : ChainState → Nat
  | .pending => 0
  | .running => 1
  | .completed => 2

section

open Chain

variable {length cursor : Nat} {advance : Step} {within : Execution → List Execution}

theorem Program.cursor_le_of_call (hcarries : Carries length cursor advance within)
    (program : Program) {e : Execution} (he : cursor ≤ e.cursor) :
    ∀ call ∈ program.calls length advance e, cursor ≤ call.cursor := by
  induction program generalizing e with
  | finish outcome => exact fun call hcall => absurd hcall List.not_mem_nil
  | read next ih => exact ih _ he
  | write scope next ih => exact ih he
  | gauge meter next ih => exact ih _ he
  | inspect next ih => exact ih _ he
  | complete next ih => exact ih he
  | advance next ih =>
    exact List.forall_mem_cons.mpr
      ⟨he, ih _ (Nat.le_trans he (hcarries e he).cursor_le)⟩

theorem Handler.cursor_le_of_call (hcarries : Carries length cursor advance within)
    (handler : Handler) {e : Execution} (he : cursor ≤ e.cursor) :
    ∀ call ∈ handler.calls length advance e, cursor ≤ call.cursor := by
  have hsingle : ∀ {call : Execution}, Moves length e call →
      ∀ other ∈ [call], cursor ≤ other.cursor := by
    intro call hmove other hother
    rw [List.mem_singleton.mp hother]
    exact Nat.le_trans he hmove.cursor_le
  cases handler with
  | recovery exposeDetails => exact hsingle (.stays rfl rfl rfl)
  | tracing => exact hsingle (.stays rfl rfl (Execution.invoked_log_of_none rfl))
  | requestId => exact hsingle (RequestIdHeader.moves_adopt e)
  | metrics meter => exact hsingle (.stays rfl rfl rfl)
  | endpoint name serve => exact fun call hcall => absurd hcall List.not_mem_nil
  | custom name behaviour => exact behaviour.cursor_le_of_call hcarries he

end

namespace Chain

theorem advanceFrom_of_passed {length index : Nat} {h : Handler} {rest : List Handler}
    {e : Execution} (hpassed : index < e.cursor) :
    advanceFrom length (h :: rest) index e = advanceFrom length rest (index + 1) e ∧
      traceFrom length (h :: rest) index e = traceFrom length rest (index + 1) e := by
  by_cases hdone : e.state = .completed
  · simp only [advanceFrom_of_completed hdone, traceFrom_of_completed hdone, and_self]
  · rw [advanceFrom, traceFrom, if_neg hdone, if_neg hdone, if_pos hpassed, if_pos hpassed]
    exact ⟨rfl, rfl⟩

theorem invoked_eq_entries {length : Nat} (handlers : List Handler) {index : Nat}
    (hlength : index + handlers.length ≤ length) {e : Execution} (he : index ≤ e.cursor) :
    (advanceFrom length handlers index e).2.invoked =
      e.invoked ++ entries (traceFrom length handlers index e) := by
  induction handlers generalizing index e with
  | nil =>
    have hrests := rests_nil length index e
    rw [hrests.invoked, hrests.trace, entries_nil, List.append_nil]
  | cons h rest ih =>
    rw [List.length_cons] at hlength
    rcases Nat.lt_or_eq_of_le he with hpassed | hcursor
    · rw [(advanceFrom_of_passed hpassed).1, (advanceFrom_of_passed hpassed).2]
      exact ih (by omega) hpassed
    · rcases rests_or_enters (Nat.le_of_eq hcursor.symm) with hrests | ⟨hadvance, htrace⟩
      · rw [hrests.invoked, hrests.trace, entries_nil, List.append_nil]
      · have hcarries : Carries length (index + 1) (advanceFrom length rest (index + 1))
            (stationsFrom length rest (index + 1)) := advanceFrom_carries rest (by omega)
        have hentered : index + 1 ≤ (enter h e).cursor := Nat.succ_le_succ he
        have hcalls := h.cursor_le_of_call hcarries hentered
        have hrun := h.invoked_run
          (fun call => entries (traceFrom length rest (index + 1) call)) (enter h e)
          fun call hcall => ih (by omega) (hcalls call hcall)
        rw [hadvance, htrace, Execution.invoked_leave, hrun, Execution.invoked_enter, ← hcursor]
        simp [entries_callEvents, enteredAt?]

structure Placed (length : Nat) (before : List Nat) (s : Execution) : Prop where
  invoked : s.invoked = before ++ List.range s.cursor
  position_le : s.cursor ≤ length
  pending : s.state = .pending → s.cursor = 0

theorem Moves.placed {length : Nat} {before : List Nat} {e next : Execution}
    (h : Moves length e next) (he : Placed length before e) : Placed length before next := by
  cases h with
  | stays hcursor hstate hinvoked =>
    refine ⟨?_, hcursor ▸ he.position_le, ?_⟩
    · rw [hinvoked, hcursor]
      exact he.invoked
    · rw [hstate, hcursor]
      exact he.pending
  | completes hcursor hstate hinvoked =>
    refine ⟨?_, hcursor ▸ he.position_le, ?_⟩
    · rw [hinvoked, hcursor]
      exact he.invoked
    · rw [hstate]
      exact nofun
  | enters hlive hroom hcursor hstate hinvoked =>
    refine ⟨?_, hcursor ▸ hroom, ?_⟩
    · rw [hinvoked, hcursor, he.invoked, List.range_succ, List.append_assoc]
    · rw [hstate]
      exact nofun

structure Precedes (s later : Execution) : Prop where
  position : s.cursor ≤ later.cursor
  state : s.state.rank ≤ later.state.rank

theorem Precedes.trans {s middle later : Execution} (h : Precedes s middle)
    (h' : Precedes middle later) : Precedes s later :=
  ⟨Nat.le_trans h.position h'.position, Nat.le_trans h.state h'.state⟩

theorem Moves.precedes {length : Nat} {e next : Execution} (h : Moves length e next) :
    Precedes e next := by
  refine ⟨h.cursor_le, ?_⟩
  cases h with
  | stays hcursor hstate hinvoked => exact Nat.le_of_eq (congrArg ChainState.rank hstate.symm)
  | completes hcursor hstate hinvoked =>
    rw [hstate]
    cases e.state <;> decide
  | enters hlive hroom hcursor hstate hinvoked =>
    rw [hstate]
    revert hlive
    cases e.state <;> simp [ChainState.rank]

theorem Goes.precedes {length : Nat} {e last : Execution} {more : List Execution}
    (h : Goes length e more last) : (e :: more).Pairwise Precedes := by
  induction h with
  | done e => exact List.pairwise_singleton _ e
  | @step e next last more hmove hmore ih =>
    refine List.pairwise_cons.mpr ⟨?_, ih⟩
    have hlater := (hmore.all (fun hnext hs => Precedes.trans hs hnext.precedes)
      hmove.precedes).1
    exact List.forall_mem_cons.mpr ⟨hmove.precedes, hlater⟩

/-- The trace of all advances that the caller of a chain makes. -/
def callerTrace (handlers : List Handler) (caller : Program) (e : Execution) : List ChainEvent :=
  (caller.calls handlers.length (advance handlers) e).flatMap (trace handlers)

def callerStations (handlers : List Handler) (caller : Program) (e : Execution) :
    List Execution :=
  e :: caller.stations handlers.length (advance handlers) (stations handlers) e

def callerEnd (handlers : List Handler) (caller : Program) (e : Execution) : Execution :=
  (caller.run handlers.length (advance handlers) e).2

structure Progresses (handlers : List Handler) (caller : Program) (e : Execution) : Prop where
  /-- The handlers are entered in their order, none of them twice. -/
  entries_eq : entries (callerTrace handlers caller e) =
    List.range (callerEnd handlers caller e).cursor
  /-- The cursor always is the number of handlers entered so far, as the journal reports them. -/
  invoked : ∀ s ∈ callerStations handlers caller e, s.invoked = e.invoked ++ List.range s.cursor
  position_le : ∀ s ∈ callerStations handlers caller e, s.cursor ≤ handlers.length
  remaining : ∀ s ∈ callerStations handlers caller e,
    s.cursor + (s.view handlers.length).remaining = handlers.length
  pending : ∀ s ∈ callerStations handlers caller e, s.state = .pending → s.invoked = e.invoked
  forward : (callerStations handlers caller e).Pairwise Precedes
  steps : Goes handlers.length e (callerStations handlers caller e).tail
    (callerEnd handlers caller e)
  /-- A completed chain is advanced, from outside or by any handler, without any effect but a line
  in the journal. -/
  idle : ∀ place s, s.state = .completed →
    advanceFrom handlers.length (handlers.drop place) place s = (.ok, ignore s) ∧
      traceFrom handlers.length (handlers.drop place) place s = [] ∧
      (ignore s).cursor = s.cursor ∧ (ignore s).scope = s.scope ∧
      (ignore s).state = .completed ∧ (ignore s).invoked = s.invoked

/-- For all handlers and all callers, whoever catches panics. -/
theorem caller_progresses (handlers : List Handler) (caller : Program) (scope : Scope)
    (meters : Meters) (journal : List Event) :
    Progresses handlers caller { scope, meters, journal } := by
  generalize hstart : ({ scope, meters, journal } : Execution) = e
  have hcarries : Carries handlers.length 0 (advance handlers) (stations handlers) :=
    advanceFrom_carries handlers (Nat.le_of_eq (Nat.zero_add _))
  have hgoes : Goes handlers.length e (callerStations handlers caller e).tail
      (callerEnd handlers caller e) := caller.goes hcarries (Nat.zero_le e.cursor)
  have hplaced : Placed handlers.length e.invoked e := by
    subst hstart
    exact ⟨(List.append_nil _).symm, Nat.zero_le _, fun _ => rfl⟩
  obtain ⟨hwithin, hend⟩ := hgoes.all Moves.placed hplaced
  have hall : ∀ s ∈ callerStations handlers caller e, Placed handlers.length e.invoked s :=
    List.forall_mem_cons.mpr ⟨hplaced, hwithin⟩
  refine
    { entries_eq := ?_
      invoked := fun s hs => (hall s hs).invoked
      position_le := fun s hs => (hall s hs).position_le
      remaining := fun s hs => Nat.add_sub_cancel' (hall s hs).position_le
      pending := ?_
      forward := hgoes.precedes
      steps := hgoes
      idle := fun place s hdone => ⟨advanceFrom_of_completed hdone, traceFrom_of_completed hdone,
        rfl, rfl, hdone, s.invoked_ignore⟩ }
  · have hinvoked : (callerEnd handlers caller e).invoked = e.invoked ++
        (caller.calls handlers.length (advance handlers) e).flatMap
          fun call => entries (trace handlers call) :=
      caller.invoked_run _ e fun call _ =>
        invoked_eq_entries handlers (Nat.le_of_eq (Nat.zero_add _)) (Nat.zero_le call.cursor)
    rw [hend.invoked, List.append_cancel_left_eq] at hinvoked
    rw [callerTrace, entries, List.filterMap_flatMap]
    exact hinvoked.symm
  · intro s hs hpending
    rw [(hall s hs).invoked, (hall s hs).pending hpending, List.range_zero, List.append_nil]

end Chain

end RequestRouting

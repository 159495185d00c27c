import RequestRouting.Proofs.Chain.Order

/-!
# Moments of a run

The trace of a chain, each event with the execution as it stood at that moment, and the three
courses that an advance can take.
-/

set_option autoImplicit false

namespace RequestRouting

open ChainEvent

structure Moment where
  event : ChainEvent
  execution : Execution

namespace Chain

/-- The moments of a call that the handler at `index` makes, given those within it. -/
def aroundCall (index : Nat) (advance : Step) (within : Execution → List Moment)
    (call : Execution) : List Moment :=
  ⟨called index, call⟩ :: (within call ++
    [⟨resumed index (advance call).1 (advance call).2.state, (advance call).2⟩])

def momentsFrom (length : Nat) : List Handler → Nat → Execution → List Moment
  | [], _, _ => []
  | h :: rest, index, e =>
    if e.state = .completed then []
    else if index < e.cursor then momentsFrom length rest (index + 1) e
    else if e.context.isCancelled then []
    else
      let advance : Step := fun e => advanceFrom length rest (index + 1) e
      let result := h.run length advance (enter h e)
      ⟨.entered index, enter h e⟩ :: ((h.calls length advance (enter h e)).flatMap
          (aroundCall index advance fun call => momentsFrom length rest (index + 1) call)) ++
        [⟨.left index result.1, result.2⟩]

def moments (handlers : List Handler) (e : Execution) : List Moment :=
  momentsFrom handlers.length handlers 0 e

def callMoments (length index : Nat) (rest : List Handler) (calls : List Execution) :
    List Moment :=
  calls.flatMap (aroundCall index (advanceFrom length rest (index + 1))
    (momentsFrom length rest (index + 1)))

section

variable {length index : Nat} {h : Handler} {rest : List Handler} {e : Execution}

theorem aroundCall_events (index : Nat) (advance : Step) (within : Execution → List Moment)
    (call : Execution) : (aroundCall index advance within call).map (·.event) =
      called index :: ((within call).map (·.event) ++
        [resumed index (advance call).1 (advance call).2.state]) := by
  rw [aroundCall, List.map_cons, List.map_append, List.map_singleton]

theorem momentsFrom_events (length : Nat) (handlers : List Handler) (index : Nat)
    (e : Execution) :
    (momentsFrom length handlers index e).map (·.event) =
      traceFrom length handlers index e := by
  induction handlers generalizing index e with
  | nil => rfl
  | cons h rest ih =>
    rw [momentsFrom, traceFrom]
    split
    · rfl
    · split
      · exact ih (index + 1) e
      · split
        · rfl
        · simp [List.map_flatMap, aroundCall_events, ih]

theorem callMoments_events (length index : Nat) (rest : List Handler) (calls : List Execution) :
    (callMoments length index rest calls).map (·.event) = callEvents length index rest calls := by
  rw [callMoments, callEvents, List.map_flatMap]
  simp [aroundCall_events, momentsFrom_events]

theorem momentsFrom_of_entered (hcursor : e.cursor = index)
    (hentered : traceFrom length (h :: rest) index e ≠ []) :
    momentsFrom length (h :: rest) index e =
      ⟨entered index, enter h e⟩ :: (callMoments length index rest
        (h.calls length (advanceFrom length rest (index + 1)) (enter h e)) ++
          [⟨left index (h.run length (advanceFrom length rest (index + 1)) (enter h e)).1,
            (h.run length (advanceFrom length rest (index + 1)) (enter h e)).2⟩]) := by
  have hreached : ¬ index < e.cursor := by omega
  have hdone : ¬ e.state = .completed := fun hdone => hentered (traceFrom_of_completed hdone)
  have hlive : ¬ e.context.isCancelled = true := by
    intro hcancelled
    rw [traceFrom, if_neg hdone, if_neg hreached, if_pos hcancelled] at hentered
    exact hentered rfl
  rw [momentsFrom, if_neg hdone, if_neg hreached, if_neg hlive]
  rfl

theorem advanceFrom_ok_of_rests {handlers : List Handler}
    (hrests : traceFrom length handlers index e = []) :
    (advanceFrom length handlers index e).1 = .ok := by
  induction handlers generalizing index e with
  | nil => rfl
  | cons h rest ih =>
    rw [traceFrom] at hrests
    rw [advanceFrom]
    split at hrests
    · rename_i hdone
      rw [if_pos hdone]
    · rename_i hdone
      rw [if_neg hdone]
      split at hrests
      · rename_i hreached
        rw [if_pos hreached]
        exact ih hrests
      · rename_i hreached
        rw [if_neg hreached]
        split at hrests
        · rename_i hcancelled
          rw [if_pos hcancelled]
        · simp at hrests

theorem callMoments_cons (call : Execution) (later : List Execution) :
    callMoments length index rest (call :: later) =
      ⟨called index, call⟩ :: (momentsFrom length rest (index + 1) call ++
        ⟨resumed index (advanceFrom length rest (index + 1) call).1
          (advanceFrom length rest (index + 1) call).2.state,
          (advanceFrom length rest (index + 1) call).2⟩ ::
        callMoments length index rest later) := by
  simp [callMoments, aroundCall]

theorem callMoments_idle {calls : List Execution}
    (hcalls : ∀ call ∈ calls, call.state = .completed) :
    (callMoments length index rest calls).map (·.event) = idleCalls index calls.length := by
  rw [callMoments_events, callEvents_idle hcalls]

/-- The course of an advance, by its moments: no handler is entered, or the first one is and makes
idle calls at most, or its first call goes on with the handlers behind it. -/
inductive Course (length index : Nat) (rest : List Handler) : Outcome → List Moment → Prop where
  | rests : Course length index rest .ok []
  | alone {start done : Execution} {idle : List Moment} {count : Nat} {outcome : Outcome}
      (hidle : idle.map (·.event) = idleCalls index count) :
      Course length index rest outcome
        (⟨entered index, start⟩ :: (idle ++ [⟨left index outcome, done⟩]))
  | first {start call done : Execution} {idle : List Moment} {count : Nat} {outcome : Outcome}
      (hcall : call.cursor = index + 1) (hidle : idle.map (·.event) = idleCalls index count) :
      Course length index rest outcome
        (⟨entered index, start⟩ :: ⟨called index, call⟩ ::
          (momentsFrom length rest (index + 1) call ++
            ⟨resumed index (advanceFrom length rest (index + 1) call).1
              (advanceFrom length rest (index + 1) call).2.state,
              (advanceFrom length rest (index + 1) call).2⟩ ::
            (idle ++ [⟨left index outcome, done⟩])))

theorem momentsFrom_course (length : Nat) (hpasses : ∀ h' ∈ h :: rest, h'.PassesPanics)
    (hcursor : e.cursor = index) :
    Course length index rest (advanceFrom length (h :: rest) index e).1
      (momentsFrom length (h :: rest) index e) := by
  obtain ⟨hfirst, hrest⟩ := List.forall_mem_cons.mp hpasses
  rcases rests_or_enters (Nat.le_of_eq hcursor) with hrests | ⟨hadvance, htrace⟩
  · have hnone : momentsFrom length (h :: rest) index e = [] :=
      List.map_eq_nil_iff.mp ((momentsFrom_events _ _ _ _).trans hrests.trace)
    rw [hnone, advanceFrom_ok_of_rests hrests.trace]
    exact .rests
  · have hconduct := conduct_of_enter length (advanceFrom_settles length hrest (index + 1))
      hfirst hcursor
    rw [momentsFrom_of_entered hcursor (htrace ▸ List.cons_ne_nil _ _), hadvance]
    generalize h.run length (advanceFrom length rest (index + 1)) (enter h e) = result
      at hconduct ⊢
    generalize h.calls length (advanceFrom length rest (index + 1)) (enter h e) = calls
      at hconduct ⊢
    cases hconduct with
    | idle hcalls hstill => exact .alone (callMoments_idle hcalls)
    | first hcall hmore hmoved hstate =>
      rw [callMoments_cons]
      simpa using Course.first hcall (callMoments_idle hmore)

theorem index_le_of_moment (length : Nat) (handlers : List Handler) (index : Nat)
    (e : Execution) : ∀ m ∈ momentsFrom length handlers index e, index ≤ m.event.index := by
  induction handlers generalizing index e with
  | nil => exact fun m hm => absurd hm List.not_mem_nil
  | cons h rest ih =>
    intro m hm
    rw [momentsFrom] at hm
    split at hm
    · exact absurd hm List.not_mem_nil
    · split at hm
      · exact Nat.le_of_succ_le (ih (index + 1) e m hm)
      · split at hm
        · exact absurd hm List.not_mem_nil
        · simp only [List.mem_cons, List.mem_append, List.mem_flatMap, aroundCall,
            List.not_mem_nil, or_false] at hm
          rcases hm with (rfl | ⟨call, -, rfl | hm | rfl⟩) | rfl
          · exact Nat.le_refl _
          · exact Nat.le_refl _
          · exact Nat.le_of_succ_le (ih (index + 1) call m hm)
          · exact Nat.le_refl _
          · exact Nat.le_refl _

end

/-- The handler at `index` is the next one, and nothing keeps it from being entered. -/
structure Ready (index : Nat) (e : Execution) : Prop where
  running : e.state ≠ .completed
  cursor : e.cursor = index
  live : e.context.isCancelled = false

namespace Ready

variable {length index : Nat} {h : Handler} {rest : List Handler} {e call : Execution}

theorem enter (hready : Ready index e) (h : Handler) : Ready (index + 1) (Chain.enter h e) :=
  ⟨nofun, congrArg (· + 1) hready.cursor, hready.live⟩

theorem unreached (hready : Ready index e) : ¬ index < e.cursor :=
  Nat.not_lt.mpr (Nat.le_of_eq hready.cursor)

theorem uncancelled (hready : Ready index e) : ¬ e.context.isCancelled = true := by
  simp [hready.live]

theorem advanceFrom_eq (hready : Ready index e) :
    advanceFrom length (h :: rest) index e =
      ((h.run length (advanceFrom length rest (index + 1)) (Chain.enter h e)).1,
        leave index (h.run length (advanceFrom length rest (index + 1)) (Chain.enter h e)).1
          (h.run length (advanceFrom length rest (index + 1)) (Chain.enter h e)).2) := by
  rw [advanceFrom, if_neg hready.running, if_neg hready.unreached, if_neg hready.uncancelled]

theorem momentsFrom_eq (hready : Ready index e)
    (hcall : h.calls length (advanceFrom length rest (index + 1)) (Chain.enter h e) = [call]) :
    momentsFrom length (h :: rest) index e =
      ⟨entered index, Chain.enter h e⟩ :: ⟨called index, call⟩ ::
        (momentsFrom length rest (index + 1) call ++
          [⟨resumed index (advanceFrom length rest (index + 1) call).1
              (advanceFrom length rest (index + 1) call).2.state,
              (advanceFrom length rest (index + 1) call).2⟩,
            ⟨left index (h.run length (advanceFrom length rest (index + 1)) (Chain.enter h e)).1,
              (h.run length (advanceFrom length rest (index + 1)) (Chain.enter h e)).2⟩]) := by
  rw [momentsFrom, if_neg hready.running, if_neg hready.unreached, if_neg hready.uncancelled]
  simp [hcall, aroundCall]

theorem mem_moments_behind (hready : Ready index e)
    (hcall : h.calls length (advanceFrom length rest (index + 1)) (Chain.enter h e) = [call])
    {m : Moment} (hm : m.event.index ≠ index) :
    m ∈ momentsFrom length (h :: rest) index e ↔ m ∈ momentsFrom length rest (index + 1) call := by
  rw [hready.momentsFrom_eq hcall]
  simp only [List.mem_cons, List.mem_append, List.not_mem_nil, or_false]
  constructor
  · rintro (rfl | rfl | hbehind | rfl | rfl)
    · exact absurd rfl hm
    · exact absurd rfl hm
    · exact hbehind
    · exact absurd rfl hm
    · exact absurd rfl hm
  · exact fun hbehind => .inr (.inr (.inl hbehind))

theorem mem_moments_here (hready : Ready index e)
    (hcall : h.calls length (advanceFrom length rest (index + 1)) (Chain.enter h e) = [call])
    {m : Moment} (hm : m.event.index = index) :
    m ∈ momentsFrom length (h :: rest) index e ↔
      m = ⟨entered index, Chain.enter h e⟩ ∨ m = ⟨called index, call⟩ ∨
        m = ⟨resumed index (advanceFrom length rest (index + 1) call).1
          (advanceFrom length rest (index + 1) call).2.state,
          (advanceFrom length rest (index + 1) call).2⟩ ∨
        m = ⟨left index (h.run length (advanceFrom length rest (index + 1)) (Chain.enter h e)).1,
          (h.run length (advanceFrom length rest (index + 1)) (Chain.enter h e)).2⟩ := by
  have hbehind : m ∉ momentsFrom length rest (index + 1) call := by
    intro hmem
    have hle := index_le_of_moment length rest (index + 1) call m hmem
    omega
  rw [hready.momentsFrom_eq hcall]
  simp only [List.mem_cons, List.mem_append, List.not_mem_nil, or_false, hbehind, false_or]

end Ready

end Chain

end RequestRouting

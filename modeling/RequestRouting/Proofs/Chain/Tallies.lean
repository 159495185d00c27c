import RequestRouting.Proofs.Chain.Metering
import RequestRouting.Proofs.Chain.Moments
import RequestRouting.Proofs.SortedFields

/-!
# Tallies

The counters of a meter agree with each other and with the requests that have come to it, at every
moment of a run: also where an error is not counted yet, or never will be.
-/

set_option autoImplicit false

namespace RequestRouting

open ChainEvent

namespace Meter

/-- The meter on which patterns were listed and requests with patterns have arrived, of which at
least so many are not answered. -/
structure Tallies (m : Meter) (listed arrived : List String) (unanswered : Nat) : Prop where
  requests : m.requests = arrived.length
  total : m.requests = (m.paths.map (·.2)).sum
  counts : ∀ pattern, m.pathCount pattern = arrived.count pattern
  sorted : Json.Sorted m.paths
  names : ∀ pattern, pattern ∈ m.paths.map (·.1) ↔ pattern ∈ listed ∨ pattern ∈ arrived
  errors : m.clientErrors + m.serverErrors + unanswered ≤ m.requests

theorem pathCount_list (paths : List (String × Nat)) (pattern other : String) :
    ((list paths pattern).lookup other).getD 0 = (paths.lookup other).getD 0 := by
  rw [list, Json.lookup_putField]
  split
  · rename_i hsame
    rw [hsame, Option.getD_some]
  · rfl

theorem pathCount_register (m : Meter) (patterns : List String) (pattern : String) :
    (m.register patterns).pathCount pattern = m.pathCount pattern := by
  change ((patterns.foldl list m.paths).lookup pattern).getD 0 = (m.paths.lookup pattern).getD 0
  generalize m.paths = paths
  induction patterns generalizing paths with
  | nil => rfl
  | cons first rest ih => exact (ih _).trans (pathCount_list paths first pattern)

theorem pathCount_enter (m : Meter) (pattern other : String) : (m.enter pattern).pathCount other =
    m.pathCount other + if other = pattern then 1 else 0 := by
  rw [pathCount, enter, Json.lookup_putField]
  split
  · rename_i hsame
    rw [hsame, Option.getD_some]
  · rfl

theorem answer_paths (m : Meter) (status : Nat) : (m.answer status).paths = m.paths := by
  rw [answer]
  split
  · rfl
  · split <;> rfl

namespace Tallies

variable {m : Meter} {listed arrived : List String} {unanswered : Nat}

theorem new : ({} : Meter).Tallies [] [] 0 where
  requests := rfl
  total := rfl
  counts _ := rfl
  sorted := .nil
  names _ := by simp
  errors := Nat.le_refl 0

theorem enter (h : m.Tallies listed arrived unanswered) (pattern : String) :
    (m.enter pattern).Tallies listed (arrived ++ [pattern]) (unanswered + 1) where
  requests := by
    rw [Meter.enter, h.requests, List.length_append, List.length_singleton]
  total := by
    have hsum := h.sorted.sum_putField pattern (m.pathCount pattern + 1)
    have htotal := h.total
    change m.requests + 1 =
      ((Json.putField pattern (m.pathCount pattern + 1) m.paths).map (·.2)).sum
    change _ + m.pathCount pattern = _ at hsum
    omega
  counts other := by
    rw [pathCount_enter, h.counts, List.count_append]
    by_cases hsame : other = pattern
    · rw [if_pos hsame, hsame, List.count_singleton_self]
    · have hnone : [pattern].count other = 0 :=
        List.count_eq_zero_of_not_mem (by simpa using hsame)
      rw [if_neg hsame, hnone]
  sorted := h.sorted.putField pattern _
  names other := by
    rw [Meter.enter, Json.mem_names_putField, h.names, List.mem_append, List.mem_singleton]
    tauto
  errors := by
    have herrors := h.errors
    change m.clientErrors + m.serverErrors + (unanswered + 1) ≤ m.requests + 1
    omega

theorem answer (h : m.Tallies listed arrived (unanswered + 1)) (status : Nat) :
    (m.answer status).Tallies listed arrived unanswered := by
  obtain ⟨hrequests, hclient, hserver⟩ := m.answer_counts status
  have hpaths := m.answer_paths status
  refine ⟨hrequests.trans h.requests, ?_, ?_, hpaths ▸ h.sorted, ?_, ?_⟩
  · rw [hrequests, hpaths, h.total]
  · intro pattern
    rw [pathCount, hpaths]
    exact h.counts pattern
  · intro pattern
    rw [hpaths]
    exact h.names pattern
  · have herrors := h.errors
    have hone : (if isClientError status then 1 else 0) +
        (if isServerError status then 1 else 0) ≤ 1 := by
      simp only [isClientError, isServerError, Bool.and_eq_true, decide_eq_true_eq]
      split <;> split <;> omega
    omega

theorem unwind (h : m.Tallies listed arrived (unanswered + 1)) :
    m.Tallies listed arrived unanswered :=
  ⟨h.requests, h.total, h.counts, h.sorted, h.names, Nat.le_of_succ_le h.errors⟩

theorem settle (h : m.Tallies listed arrived unanswered) : m.Tallies listed arrived 0 :=
  ⟨h.requests, h.total, h.counts, h.sorted, h.names, by have herrors := h.errors; omega⟩

theorem register (h : m.Tallies listed arrived unanswered) (patterns : List String) :
    (m.register patterns).Tallies (listed ++ patterns) arrived unanswered := by
  induction patterns generalizing m listed with
  | nil =>
    rw [List.append_nil]
    exact h
  | cons first rest ih =>
    have hfirst : (m.register [first]).Tallies (listed ++ [first]) arrived unanswered := by
      refine ⟨h.requests, ?_, fun pattern => ?_, h.sorted.putField first _, fun pattern => ?_,
        h.errors⟩
      · have hsum := h.sorted.sum_putField first (m.pathCount first)
        exact h.total.trans (Nat.add_right_cancel hsum).symm
      · rw [pathCount_register, h.counts]
      · change pattern ∈ (Json.putField first _ m.paths).map (·.1) ↔ _
        rw [Json.mem_names_putField, h.names, List.mem_append, List.mem_singleton]
        tauto
    have hrest := ih hfirst
    rw [List.append_assoc, List.singleton_append] at hrest
    exact hrest

end Tallies

end Meter

def Handler.countsOn (meter : String) : Handler → Bool
  | .metrics name => name == meter
  | _ => false

def Moment.counted? (meter : String) (chain : List Handler) (m : Moment) : Option String :=
  match m.event with
  | .entered place =>
    if (chain[place]?).any (Handler.countsOn meter) then some m.execution.context.pattern else none
  | _ => none

section

variable (meter : String) (chain : List Handler) (place : Nat) (e : Execution)

theorem Moment.counted?_entered : counted? meter chain ⟨entered place, e⟩ =
    if (chain[place]?).any (Handler.countsOn meter) then some e.context.pattern else none := rfl

theorem Moment.counted?_called : counted? meter chain ⟨called place, e⟩ = none := rfl

theorem Moment.counted?_resumed (outcome : Outcome) (state : ChainState) :
    counted? meter chain ⟨resumed place outcome state, e⟩ = none := rfl

theorem Moment.counted?_left (outcome : Outcome) :
    counted? meter chain ⟨left place outcome, e⟩ = none := rfl

end

namespace Chain

def counted (meter : String) (chain : List Handler) (moments : List Moment) : List String :=
  moments.filterMap (Moment.counted? meter chain)

def Tallied (meter : String) (chain : List Handler) (listed : List String) :
    List String → List Moment → Prop
  | _, [] => True
  | arrived, m :: later =>
    (m.execution.meters.get meter).Tallies listed arrived 0 ∧
      Tallied meter chain listed (arrived ++ (m.counted? meter chain).toList) later

section

variable {meter : String} {chain : List Handler} {listed arrived : List String}

theorem counted_nil : counted meter chain [] = [] := rfl

theorem counted_cons (m : Moment) (later : List Moment) : counted meter chain (m :: later) =
    (m.counted? meter chain).toList ++ counted meter chain later := by
  rw [counted, List.filterMap_cons]
  cases m.counted? meter chain <;> rfl

theorem counted_append (first second : List Moment) : counted meter chain (first ++ second) =
    counted meter chain first ++ counted meter chain second := List.filterMap_append

theorem Tallied.append {first second : List Moment}
    (h : Tallied meter chain listed arrived first)
    (h' : Tallied meter chain listed (arrived ++ counted meter chain first) second) :
    Tallied meter chain listed arrived (first ++ second) := by
  induction first generalizing arrived with
  | nil =>
    rw [counted_nil, List.append_nil] at h'
    exact h'
  | cons m later ih =>
    rw [counted_cons, ← List.append_assoc] at h'
    exact ⟨h.1, ih h.2 h'⟩

theorem Tallied.split {moments before after : List Moment} {m : Moment}
    (h : Tallied meter chain listed arrived moments) (hsplit : moments = before ++ m :: after) :
    (m.execution.meters.get meter).Tallies listed (arrived ++ counted meter chain before) 0 := by
  induction before generalizing arrived moments with
  | nil =>
    subst hsplit
    rw [counted_nil, List.append_nil]
    exact h.1
  | cons first rest ih =>
    subst hsplit
    rw [counted_cons, ← List.append_assoc]
    exact ih h.2 rfl

end

/-- An advance that tallies what comes to the meter in it. -/
def Tallying (meter : String) (chain : List Handler) (listed : List String) (advance : Step)
    (within : Execution → List Moment) : Prop :=
  ∀ e arrived unanswered, (e.meters.get meter).Tallies listed arrived unanswered →
    Tallied meter chain listed arrived (within e) ∧
      ((advance e).2.meters.get meter).Tallies listed (arrived ++ counted meter chain (within e))
        unanswered

end Chain

section

open Chain

variable {meter : String} {chain : List Handler} {listed : List String} {length : Nat}
  {advance : Step} {within : Execution → List Moment}

theorem Program.tallying (h : Tallying meter chain listed advance within) (program : Program) :
    Tallying meter chain listed (program.run length advance)
      fun e => (program.calls length advance e).flatMap within := by
  intro e arrived unanswered he
  induction program generalizing e arrived with
  | finish outcome =>
    refine ⟨trivial, ?_⟩
    simp only [Program.calls, List.flatMap_nil, counted_nil, List.append_nil]
    exact he
  | read next ih => exact ih _ e arrived he
  | write scope next ih => exact ih _ arrived he
  | gauge meter next ih => exact ih _ e arrived he
  | inspect next ih => exact ih _ e arrived he
  | complete next ih => exact ih _ arrived he
  | advance next ih =>
    obtain ⟨hcall, hafter⟩ := h e arrived unanswered he
    obtain ⟨hmore, hlast⟩ := ih _ _ _ hafter
    dsimp only
    rw [Program.calls, List.flatMap_cons, counted_append, ← List.append_assoc]
    exact ⟨hcall.append hmore, hlast⟩

theorem Chain.Tallying.around (h : Tallying meter chain listed advance within) (index : Nat) :
    Tallying meter chain listed advance (aroundCall index advance within) := by
  intro call arrived unanswered hcall
  obtain ⟨hwithin, hafter⟩ := h call arrived unanswered hcall
  rw [aroundCall]
  refine ⟨⟨hcall.settle, ?_⟩, ?_⟩
  · rw [Moment.counted?_called, Option.toList_none, List.append_nil]
    exact hwithin.append ⟨hafter.settle, trivial⟩
  · simp only [counted_nil, counted_cons, counted_append, Moment.counted?_called,
      Moment.counted?_resumed, Option.toList_none, List.nil_append, List.append_nil]
    exact hafter

theorem Chain.Tallying.once (h : Tallying meter chain listed advance within) {e call : Execution}
    {result : Outcome × Execution} (hcall : call.meters.get meter = e.meters.get meter)
    (hlast : result.2.meters.get meter = (advance call).2.meters.get meter)
    {arrived : List String} {unanswered : Nat}
    (he : (e.meters.get meter).Tallies listed arrived unanswered) :
    Tallied meter chain listed arrived ([call].flatMap within) ∧
      (result.2.meters.get meter).Tallies listed
        (arrived ++ counted meter chain ([call].flatMap within)) unanswered := by
  rw [List.flatMap_singleton, hlast]
  exact h call arrived unanswered (hcall ▸ he)

theorem Metrics.tallying (h : Tallying meter chain listed advance within) {e : Execution}
    {arrived : List String} {unanswered : Nat}
    (he : (e.meters.get meter).Tallies listed arrived unanswered) :
    let call := e.updateMeter meter fun m => m.enter e.context.pattern
    let arrived' := arrived ++ [e.context.pattern]
    Tallied meter chain listed arrived' (within call) ∧
      ((Metrics.run meter advance e).2.meters.get meter).Tallies listed
        (arrived' ++ counted meter chain (within call)) unanswered := by
  intro call arrived'
  have hcall : call.meters.get meter = (e.meters.get meter).enter e.context.pattern :=
    e.updateMeter_get_self meter _
  obtain ⟨hwithin, hafter⟩ := h call arrived' _ (hcall ▸ he.enter e.context.pattern)
  have hcalled : advance (e.updateMeter meter fun m => m.enter e.context.pattern) =
    advance call := rfl
  refine ⟨hwithin, ?_⟩
  rw [Metrics.run, hcalled]
  generalize counted meter chain (within call) = behind at hafter ⊢
  generalize advance call = result at hafter ⊢
  obtain ⟨_ | error | payload, after⟩ := result
  · exact after.updateMeter_get_self meter _ ▸ hafter.answer _
  · exact after.updateMeter_get_self meter _ ▸ hafter.answer _
  · exact hafter.unwind

theorem Handler.tallying (length : Nat) (h : Tallying meter chain listed advance within)
    (handler : Handler) {e : Execution} {arrived : List String} {unanswered : Nat}
    (he : (e.meters.get meter).Tallies listed arrived unanswered) :
    let arrived' := arrived ++ if handler.countsOn meter then [e.context.pattern] else []
    Tallied meter chain listed arrived' ((handler.calls length advance e).flatMap within) ∧
      ((handler.run length advance e).2.meters.get meter).Tallies listed
        (arrived' ++ counted meter chain ((handler.calls length advance e).flatMap within))
        unanswered := by
  cases handler with
  | metrics name =>
    by_cases hname : name = meter
    · subst hname
      simp only [Handler.countsOn, beq_self_eq_true, if_true, Handler.calls,
        List.flatMap_singleton]
      exact Metrics.tallying h he
    · have hne : meter ≠ name := Ne.symm hname
      have hcounts : Handler.countsOn meter (.metrics name) = false := beq_false_of_ne hname
      simp only [hcounts, Bool.false_eq_true, if_false, List.append_nil]
      refine h.once (e.updateMeter_get_of_ne hne _) ?_ he
      rw [Handler.run, Metrics.run]
      rcases advance (e.updateMeter name fun m => m.enter e.context.pattern) with
        ⟨_ | error | payload, after⟩
      · exact after.updateMeter_get_of_ne hne _
      · exact after.updateMeter_get_of_ne hne _
      · rfl
  | recovery exposeDetails =>
    simp only [Handler.countsOn, Bool.false_eq_true, if_false, List.append_nil]
    exact h.once rfl (congrArg (Meters.get · meter) (Recovery.run_meters exposeDetails e)) he
  | tracing =>
    simp only [Handler.countsOn, Bool.false_eq_true, if_false, List.append_nil]
    exact h.once rfl (congrArg (Meters.get · meter) (Tracing.run_meters e)) he
  | requestId =>
    simp only [Handler.countsOn, Bool.false_eq_true, if_false, List.append_nil]
    exact h.once (congrArg (Meters.get · meter) (RequestIdHeader.adopt_meters e))
      (congrArg (Meters.get · meter) (RequestIdHeader.run_meters e)) he
  | endpoint name serve =>
    refine ⟨trivial, ?_⟩
    simp only [Handler.countsOn, Bool.false_eq_true, if_false, List.append_nil, Handler.calls,
      List.flatMap_nil, counted_nil]
    exact he
  | custom name behaviour =>
    simp only [Handler.countsOn, Bool.false_eq_true, if_false, List.append_nil]
    exact behaviour.tallying h e arrived unanswered he

end

namespace Chain

/-- By induction on the handlers, which are those of the chain from `index` on. -/
theorem advanceFrom_tallying (meter : String) (chain : List Handler) (listed : List String)
    (length : Nat) {handlers : List Handler} {index : Nat} (hchain : chain.drop index = handlers) :
    Tallying meter chain listed (advanceFrom length handlers index)
      (momentsFrom length handlers index) := by
  induction handlers generalizing index with
  | nil =>
    intro e arrived unanswered he
    refine ⟨trivial, ?_⟩
    rw [momentsFrom, counted_nil, List.append_nil, advanceFrom]
    split <;> exact he
  | cons h rest ih =>
    have hplace : chain[index]? = some h := by
      rw [← List.head?_drop, hchain, List.head?_cons]
    have hrest : chain.drop (index + 1) = rest := by
      rw [← List.tail_drop, hchain, List.tail_cons]
    intro e arrived unanswered he
    have hidle : Tallied meter chain listed arrived [] ∧
        (e.meters.get meter).Tallies listed (arrived ++ counted meter chain []) unanswered := by
      refine ⟨trivial, ?_⟩
      rw [counted_nil, List.append_nil]
      exact he
    rw [advanceFrom, momentsFrom]
    split
    · exact hidle
    · split
      · exact ih hrest e arrived unanswered he
      · split
        · exact hidle
        · have hstart : ((enter h e).meters.get meter).Tallies listed arrived unanswered := he
          obtain ⟨hmoments, hafter⟩ := h.tallying length ((ih hrest).around index) hstart
          have hentered : (Moment.counted? meter chain ⟨entered index, enter h e⟩).toList =
              if h.countsOn meter then [(enter h e).context.pattern] else [] := by
            rw [Moment.counted?_entered, hplace, Option.any_some]
            split <;> rfl
          refine ⟨⟨he.settle, ?_⟩, ?_⟩
          · rw [hentered]
            exact hmoments.append ⟨hafter.settle, trivial⟩
          · dsimp only
            rw [leave_meters]
            simp only [List.cons_append, counted_nil, counted_cons, counted_append, hentered,
              Moment.counted?_left, Option.toList_none, List.append_nil, ← List.append_assoc]
            exact hafter

end Chain

end RequestRouting

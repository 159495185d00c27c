import RequestRouting.Proofs.Chain.Trace

/-!
# Nested traces

The traces in which each handler is entered at most once, and the next one only within the first
call of the one before.
-/

set_option autoImplicit false

namespace RequestRouting

open ChainEvent

namespace Chain

def idleCalls (index count : Nat) : List ChainEvent :=
  (List.replicate count [called index, resumed index .ok .completed]).flatten

/-- `Nested index count trace`: the trace enters `count` handlers, the first of them at `index`. -/
inductive Nested : Nat → Nat → List ChainEvent → Prop where
  | none (index : Nat) : Nested index 0 []
  | alone (index idle : Nat) (outcome : Outcome) :
      Nested index 1 (entered index :: (idleCalls index idle ++ [left index outcome]))
  | first {index count : Nat} {inner : List ChainEvent} (idle : Nat) {came : Outcome}
      {state : ChainState} (outcome : Outcome) (hinner : Nested (index + 1) count inner)
      (hstate : came.returned → state = .completed) :
      Nested index (count + 1) (entered index :: called index :: (inner ++
        resumed index came state :: (idleCalls index idle ++ [left index outcome])))

variable {index count : Nat} {trace : List ChainEvent}

theorem mem_idleCalls {event : ChainEvent} (h : event ∈ idleCalls index count) :
    event = called index ∨ event = resumed index .ok .completed := by
  obtain ⟨call, hcall, hevent⟩ := List.mem_flatten.mp h
  rw [List.eq_of_mem_replicate hcall] at hevent
  simpa using hevent

theorem index_of_mem_idleCalls {event : ChainEvent} (h : event ∈ idleCalls index count) :
    event.index = index := by
  rcases mem_idleCalls h with rfl | rfl <;> rfl

@[simp] theorem entries_idleCalls : entries (idleCalls index count) = [] := by
  refine List.filterMap_eq_nil_iff.mpr fun event hevent => ?_
  rcases mem_idleCalls hevent with rfl | rfl <;> rfl

theorem tail_entries (index idle : Nat) (outcome : Outcome) :
    entries (idleCalls index idle ++ [left index outcome]) = [] := by
  rw [entries_append, entries_idleCalls]
  rfl

@[simp] theorem exits_idleCalls : exits (idleCalls index count) = [] := by
  refine List.filterMap_eq_nil_iff.mpr fun event hevent => ?_
  rcases mem_idleCalls hevent with rfl | rfl <;> rfl

theorem entered_not_mem (place : Nat) (h : entries trace = []) : entered place ∉ trace := by
  intro hmem
  have hnone := List.filterMap_eq_nil_iff.mp h _ hmem
  exact Option.some_ne_none _ hnone

theorem entries_eq_nil_of_suffix {before rest : List ChainEvent} (h : trace = before ++ rest)
    (hnil : entries trace = []) : entries rest = [] := by
  rw [h, entries_append] at hnil
  exact (List.append_eq_nil_iff.mp hnil).2

theorem split_first {inner tail before rest : List ChainEvent} {event : ChainEvent}
    (h : entered index :: called index :: (inner ++ tail) = before ++ event :: rest) :
    (before = [] ∧ event = entered index) ∨
      (before = [entered index] ∧ event = called index) ∨
      (∃ front more, before = entered index :: called index :: front ∧
        inner = front ++ event :: more ∧ rest = more ++ tail) ∨
      ∃ front, before = entered index :: called index :: (inner ++ front) ∧
        tail = front ++ event :: rest := by
  rcases before with _ | ⟨start, before⟩
  · exact .inl ⟨rfl, (List.cons.inj h).1.symm⟩
  obtain ⟨rfl, hcalled⟩ := List.cons.inj h
  rcases before with _ | ⟨next, before⟩
  · exact .inr (.inl ⟨rfl, (List.cons.inj hcalled).1.symm⟩)
  obtain ⟨rfl, hinner⟩ := List.cons.inj hcalled
  rcases List.append_eq_append_iff.mp hinner with ⟨front, rfl, htail⟩ | ⟨after, rfl, hrest⟩
  · exact .inr (.inr (.inr ⟨front, rfl, htail⟩))
  rcases after with _ | ⟨next, more⟩
  · exact .inr (.inr (.inr ⟨[], by simp, hrest.symm⟩))
  · obtain ⟨rfl, rfl⟩ := List.cons.inj hrest
    exact .inr (.inr (.inl ⟨before, more, rfl, rfl, rfl⟩))

namespace Nested

theorem index_le (h : Nested index count trace) : ∀ event ∈ trace, index ≤ event.index := by
  induction h with
  | none index => exact fun event hevent => absurd hevent List.not_mem_nil
  | alone index idle outcome =>
    intro event hevent
    simp only [List.mem_cons, List.mem_append, List.not_mem_nil, or_false] at hevent
    rcases hevent with rfl | hidle | rfl
    · exact Nat.le_refl _
    · exact Nat.le_of_eq (index_of_mem_idleCalls hidle).symm
    · exact Nat.le_refl _
  | first idle outcome hinner hstate ih =>
    intro event hevent
    simp only [List.mem_cons, List.mem_append, List.not_mem_nil, or_false] at hevent
    rcases hevent with rfl | rfl | hdeep | rfl | hidle | rfl
    · exact Nat.le_refl _
    · exact Nat.le_refl _
    · exact Nat.le_of_succ_le (ih event hdeep)
    · exact Nat.le_refl _
    · exact Nat.le_of_eq (index_of_mem_idleCalls hidle).symm
    · exact Nat.le_refl _

theorem entries_eq (h : Nested index count trace) : entries trace = List.range' index count := by
  induction h with
  | none index => rfl
  | alone index idle outcome => simp [enteredAt?]
  | first idle outcome hinner hstate ih => simp [enteredAt?, ih, List.range'_succ]

theorem exits_eq (h : Nested index count trace) :
    exits trace = (List.range' index count).reverse := by
  induction h with
  | none index => rfl
  | alone index idle outcome => simp [leftAt?]
  | first idle outcome hinner hstate ih => simp [leftAt?, ih, List.range'_succ]

theorem completed_of_resumed (h : Nested index count trace) {place : Nat} {outcome : Outcome}
    {state : ChainState} (hmem : resumed place outcome state ∈ trace)
    (hreturned : outcome.returned) : state = .completed := by
  induction h with
  | none index => exact absurd hmem List.not_mem_nil
  | alone index idle outcome =>
    simp only [List.mem_cons, List.mem_append, List.not_mem_nil, or_false, reduceCtorEq,
      false_or] at hmem
    have hidle := mem_idleCalls hmem
    simp only [reduceCtorEq, resumed.injEq, false_or] at hidle
    exact hidle.2.2
  | first idle outcome hinner hstate ih =>
    simp only [List.mem_cons, List.mem_append, List.not_mem_nil, or_false, reduceCtorEq,
      false_or] at hmem
    rcases hmem with hdeep | hsame | hidle
    · exact ih hdeep
    · obtain ⟨-, rfl, rfl⟩ := resumed.inj hsame
      exact hstate hreturned
    · have hidle := mem_idleCalls hidle
      simp only [reduceCtorEq, resumed.injEq, false_or] at hidle
      exact hidle.2.2

theorem entries_after_resumed (h : Nested index count trace) {place : Nat} {outcome : Outcome}
    {state : ChainState} {before rest : List ChainEvent}
    (hsplit : trace = before ++ resumed place outcome state :: rest) : entries rest = [] := by
  induction h generalizing before rest with
  | none index => simp at hsplit
  | alone index idle outcome =>
    rcases before with _ | ⟨start, before⟩
    · simp at hsplit
    · have htail := (List.cons.inj hsplit).2
      have hnil := entries_eq_nil_of_suffix htail (tail_entries _ idle outcome)
      simpa [enteredAt?] using hnil
  | first idle outcome hinner hstate ih =>
    rcases split_first hsplit with ⟨-, hevent⟩ | ⟨-, hevent⟩ | ⟨front, more, -, hinner, rfl⟩ |
      ⟨front, -, htail⟩
    · simp at hevent
    · simp at hevent
    · rw [entries_append, ih hinner]
      simp [enteredAt?]
    · have hnil := entries_eq_nil_of_suffix htail (by simp [enteredAt?])
      simpa [enteredAt?] using hnil

theorem within_first_call (h : Nested index count trace) {place : Nat}
    {before rest : List ChainEvent} (hplace : index ≤ place)
    (hsplit : trace = before ++ entered (place + 1) :: rest) :
    before.count (called place) = 1 ∧ before.countP (isResumed place) = 0 := by
  induction h generalizing before rest with
  | none index => simp at hsplit
  | alone index idle outcome =>
    rcases before with _ | ⟨start, before⟩
    · have heq := entered.inj (List.cons.inj hsplit).1
      omega
    · have htail := (List.cons.inj hsplit).2
      have hnone := entered_not_mem (place + 1) (tail_entries index idle outcome)
      exact absurd (htail ▸ List.mem_append_right _ List.mem_cons_self) hnone
  | @first index count inner idle came state outcome hinner hstate ih =>
    rcases split_first hsplit with ⟨-, hevent⟩ | ⟨-, hevent⟩ | ⟨front, more, rfl, hfront, -⟩ |
      ⟨front, -, htail⟩
    · have heq := entered.inj hevent
      omega
    · simp at hevent
    · rcases Nat.eq_or_lt_of_le hplace with rfl | hlt
      · have hdeeper : ∀ event ∈ front, index + 1 ≤ event.index := fun event hevent =>
          hinner.index_le event (hfront ▸ List.mem_append_left _ hevent)
        have hcalled : front.count (called index) = 0 := by
          refine List.count_eq_zero.mpr fun hmem => ?_
          exact Nat.not_succ_le_self index (hdeeper _ hmem)
        have hresumed : front.countP (isResumed index) = 0 := by
          refine List.countP_eq_zero.mpr fun event hevent hcame => ?_
          have hle := hdeeper event hevent
          cases event <;> simp_all [isResumed, ChainEvent.index]
        simp [hcalled, hresumed, isResumed]
      · have hdeep := ih hlt hfront
        have hne : index ≠ place := by omega
        simpa [isResumed, List.count_cons, hne] using hdeep
    · have hnil : entries (resumed index came state ::
          (idleCalls index idle ++ [left index outcome])) = [] := tail_entries _ idle outcome
      have hnone := entered_not_mem (place + 1) hnil
      exact absurd (htail ▸ List.mem_append_right _ List.mem_cons_self) hnone

end Nested

end Chain

end RequestRouting

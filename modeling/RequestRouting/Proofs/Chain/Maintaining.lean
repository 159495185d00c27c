import RequestRouting.Proofs.Chain.Moments
import RequestRouting.Proofs.Chain.Timeline

/-!
# Facts that hold throughout a run

A fact about the context that no handler of a chain destroys holds at all moments of a run, and of
what the run comes to, if it holds where the run starts.
-/

set_option autoImplicit false

namespace RequestRouting

open ChainEvent

/-- A handler that does not destroy the fact, whatever its advances come to. Of the built-in
middleware only the one that adopts identifiers writes more than the response. -/
def Handler.Maintains (P : Context → Prop) : Handler → Prop
  | .requestId => ∀ e, P e.context → P (RequestIdHeader.adopt e).context
  | h => h.Keeps fun c c' => P c → P c'

section

variable {R R' : Context → Context → Prop}

theorem Program.Keeps.mono (hle : ∀ {c c'}, R c c' → R' c c') {length : Nat} {advance : Step}
    {program : Program} {e : Execution} (h : program.Keeps R length advance e) :
    program.Keeps R' length advance e := by
  induction program generalizing e with
  | finish outcome => trivial
  | read next ih => exact ih _ h
  | write scope next ih => exact ⟨hle h.1, ih h.2⟩
  | gauge meter next ih => exact ih _ h
  | inspect next ih => exact ih _ h
  | complete next ih => exact ih h
  | advance next ih => exact ih _ h

theorem Program.Keeps.and {length : Nat} {advance : Step} {program : Program} {e : Execution}
    (h : program.Keeps R length advance e) (h' : program.Keeps R' length advance e) :
    program.Keeps (fun c c' => R c c' ∧ R' c c') length advance e := by
  induction program generalizing e with
  | finish outcome => trivial
  | read next ih => exact ih _ h h'
  | write scope next ih => exact ⟨⟨h.1, h'.1⟩, ih h.2 h'.2⟩
  | gauge meter next ih => exact ih _ h h'
  | inspect next ih => exact ih _ h h'
  | complete next ih => exact ih h h'
  | advance next ih => exact ih _ h h'

theorem Handler.Keeps.mono (hle : ∀ {c c'}, R c c' → R' c c') {handler : Handler}
    (h : handler.Keeps R) : handler.Keeps R' := by
  cases handler with
  | endpoint name serve => exact fun scope gauges => hle (h scope gauges)
  | custom name behaviour => exact fun length advance e => (h length advance e).mono hle
  | _ => trivial

theorem Handler.Keeps.maintains {P : Context → Prop} {handler : Handler} (h : handler.Keeps R)
    (hle : ∀ {c c'}, R c c' → P c → P c')
    (hadopt : handler = .requestId → ∀ e, P e.context → P (RequestIdHeader.adopt e).context) :
    handler.Maintains P := by
  have hkeeps : handler.Keeps fun c c' => P c → P c' := h.mono hle
  cases handler with
  | requestId => exact hadopt rfl
  | _ => exact hkeeps

theorem Handler.Keeps.and {handler : Handler} (h : handler.Keeps R) (h' : handler.Keeps R') :
    handler.Keeps fun c c' => R c c' ∧ R' c c' := by
  cases handler with
  | endpoint name serve => exact fun scope gauges => ⟨h scope gauges, h' scope gauges⟩
  | custom name behaviour =>
    exact fun length advance e => (h length advance e).and (h' length advance e)
  | _ => trivial

end

namespace Chain

def Upholds (P : Context → Prop) (advance : Step) (within : Execution → List Moment) : Prop :=
  ∀ e, P e.context →
    (∀ m ∈ within e, P m.execution.context) ∧ P (advance e).2.context

end Chain

section

open Chain

variable {P : Context → Prop} {length index : Nat} {advance : Step}
  {within : Execution → List Moment} {e : Execution}

theorem Program.upholds (h : Upholds P advance within) (program : Program)
    (hkeeps : program.Keeps (fun c c' => P c → P c') length advance e) (he : P e.context) :
    (∀ m ∈ (program.calls length advance e).flatMap within, P m.execution.context) ∧
      P (program.run length advance e).2.context := by
  induction program generalizing e with
  | finish outcome => exact ⟨fun m hm => absurd hm List.not_mem_nil, he⟩
  | read next ih => exact ih _ hkeeps he
  | write scope next ih => exact ih hkeeps.2 (hkeeps.1 he)
  | gauge meter next ih => exact ih _ hkeeps he
  | inspect next ih => exact ih _ hkeeps he
  | complete next ih => exact ih hkeeps he
  | advance next ih =>
    obtain ⟨hwithin, hafter⟩ := h e he
    obtain ⟨hmore, hlast⟩ := ih _ hkeeps hafter
    rw [Program.calls, List.flatMap_cons]
    exact ⟨List.forall_mem_append.mpr ⟨hwithin, hmore⟩, hlast⟩

theorem Chain.Upholds.around (h : Upholds P advance within) (index : Nat) :
    Upholds P advance (aroundCall index advance within) := by
  intro call hcall
  obtain ⟨hwithin, hafter⟩ := h call hcall
  refine ⟨List.forall_mem_cons.mpr ⟨hcall, List.forall_mem_append.mpr ⟨hwithin, ?_⟩⟩, hafter⟩
  exact List.forall_mem_singleton.mpr hafter

variable (hrespond : ∀ c response, P c → P { c with response := response })

include hrespond

theorem Chain.Upholds.once (h : Upholds P advance within) {call : Execution}
    {result : Outcome × Execution} (hon : HandsOn advance call result) (hcall : P call.context) :
    (∀ m ∈ [call].flatMap within, P m.execution.context) ∧ P result.2.context := by
  obtain ⟨hwithin, hafter⟩ := h call hcall
  obtain ⟨response, hcontext⟩ := hon
  rw [List.flatMap_singleton, hcontext]
  exact ⟨hwithin, hrespond _ response hafter⟩

theorem Handler.upholds (length : Nat) (h : Upholds P advance within) (handler : Handler)
    (hmaintains : handler.Maintains P) (he : P e.context) :
    (∀ m ∈ (handler.calls length advance e).flatMap within, P m.execution.context) ∧
      P (handler.run length advance e).2.context := by
  cases handler with
  | recovery exposeDetails => exact h.once hrespond (Recovery.handsOn exposeDetails e) he
  | tracing => exact h.once hrespond (Tracing.handsOn e) he
  | requestId => exact h.once hrespond (RequestIdHeader.handsOn e) (hmaintains e he)
  | metrics meter => exact h.once hrespond (Metrics.handsOn meter e) he
  | endpoint name serve =>
    exact ⟨fun m hm => absurd hm List.not_mem_nil, hmaintains e.scope e.gauges he⟩
  | custom name behaviour => exact behaviour.upholds h (hmaintains _ _ _) he

theorem Chain.advanceFrom_upholds (length : Nat) {handlers : List Handler}
    (hmaintains : ∀ h ∈ handlers, h.Maintains P) (index : Nat) :
    Upholds P (advanceFrom length handlers index) (momentsFrom length handlers index) := by
  induction handlers generalizing index with
  | nil =>
    intro e he
    refine ⟨fun m hm => absurd hm List.not_mem_nil, ?_⟩
    rw [advanceFrom]
    split <;> exact he
  | cons h rest ih =>
    obtain ⟨hfirst, hrest⟩ := List.forall_mem_cons.mp hmaintains
    intro e he
    rw [advanceFrom, momentsFrom]
    split
    · exact ⟨fun m hm => absurd hm List.not_mem_nil, he⟩
    · split
      · exact ih hrest (index + 1) e he
      · split
        · exact ⟨fun m hm => absurd hm List.not_mem_nil, hrespond _ timedOut he⟩
        · have hentered : P (enter h e).context := he
          obtain ⟨hwithin, hafter⟩ :=
            h.upholds hrespond length ((ih hrest (index + 1)).around index) hfirst hentered
          refine ⟨List.forall_mem_cons.mpr ⟨he, List.forall_mem_append.mpr ⟨hwithin, ?_⟩⟩, ?_⟩
          · exact List.forall_mem_singleton.mpr hafter
          · dsimp only
            rw [leave_context]
            exact hafter

end

end RequestRouting

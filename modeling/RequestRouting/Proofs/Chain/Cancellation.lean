import RequestRouting.Proofs.Chain.Progress
import RequestRouting.Proofs.Chain.Timeline

/-!
# Cancelled requests

From the moment at which a request is cancelled no handler is entered. The first advance after it
that would have entered one is answered by the chain itself; any other leaves the response as it is.
-/

set_option autoImplicit false

namespace RequestRouting

/-- What becomes of a signal that is not exchanged for another one: it may be raised, and a deadline
may pass. -/
structure CancelSignal.Continues (s later : CancelSignal) : Prop where
  raised : s.cancelled = true → later.cancelled = true
  deadline : later.deadline = s.deadline ∨ s.deadline = .ahead ∧ later.deadline = .passed

namespace CancelSignal

theorem Continues.refl (s : CancelSignal) : s.Continues s := ⟨id, .inl rfl⟩

theorem continues_cancel (s : CancelSignal) : s.Continues s.cancel := ⟨fun _ => rfl, .inl rfl⟩

theorem Continues.isCancelled {s later : CancelSignal} (h : s.Continues later)
    (hcancelled : s.isCancelled = true) : later.isCancelled = true := by
  rw [CancelSignal.isCancelled, Bool.or_eq_true, beq_iff_eq] at hcancelled ⊢
  rcases hcancelled with hraised | hpassed
  · exact .inl (h.raised hraised)
  · rcases h.deadline with hsame | ⟨-, hlater⟩
    · exact .inr (hsame.trans hpassed)
    · exact .inr hlater

end CancelSignal

def Context.KeepsSignal (c later : Context) : Prop := c.signal.Continues later.signal

theorem Context.KeepsSignal.lasting : Context.Lasting Context.KeepsSignal :=
  ⟨fun _ => .refl _, fun _ _ => .refl _, fun _ _ => .refl _⟩

def Program.KeepsSignal (program : Program) : Prop :=
  ∀ length advance e, program.Keeps Context.KeepsSignal length advance e

def Handler.KeepsSignal (handler : Handler) : Prop := handler.Keeps Context.KeepsSignal

namespace Chain

/-- How a chain goes on once its request is cancelled, whoever has done so and when. -/
structure StopsWhenCancelled (handlers : List Handler) (caller : Program) (e : Execution) :
    Prop where
  stations : (timeline handlers caller e).filterMap Instant.station? =
    callerStations handlers caller e
  /-- Whatever comes after a cancelled instant is cancelled too, and no handler is entered. -/
  halts : (timeline handlers caller e).Pairwise fun x later =>
    x.execution.context.isCancelled = true → later.execution.context.isCancelled = true ∧
      later.execution.cursor = x.execution.cursor ∧ later.execution.invoked = x.execution.invoked
  /-- An advance that then finds the chain not completed and a handler left. -/
  skips : ∀ call result, .advances call result ∈ timeline handlers caller e →
    call.context.isCancelled = true → call.state ≠ .completed → call.cursor < handlers.length →
      result.1 = .ok ∧ result.2.state = .completed ∧ result.2.cursor = call.cursor ∧
        result.2.invoked = call.invoked ∧
        result.2.context = { call.context with response := .error 503 "Request timed out" }
  /-- It is the only one of its kind, as it completes the chain for good. -/
  once : (timeline handlers caller e).Pairwise fun x later =>
    x.Skips handlers.length → later.execution.state = .completed
  /-- An advance that finds the chain completed or no handler left, cancelled or not. -/
  rests : ∀ call result, .advances call result ∈ timeline handlers caller e →
    call.state = .completed ∨ handlers.length ≤ call.cursor →
      result.1 = .ok ∧ result.2.context = call.context ∧ result.2.state = .completed

theorem Heeds.halts {e next : Execution} (h : Heeds Context.KeepsSignal e next)
    (hcancelled : e.context.isCancelled = true) :
    next.context.isCancelled = true ∧ next.cursor = e.cursor ∧ next.invoked = e.invoked := by
  refine ⟨h.keeps.isCancelled hcancelled, ?_⟩
  rcases h.enters with hstill | hlive
  · exact hstill
  · exact absurd hcancelled (Bool.eq_false_iff.mp hlive)

theorem Passes.stops {handlers : List Handler} {caller : Program} {e last : Execution}
    (h : Passes handlers.length Context.KeepsSignal e (timeline handlers caller e) last)
    (hstations : (timeline handlers caller e).filterMap Instant.station? =
      callerStations handlers caller e) : StopsWhenCancelled handlers caller e where
  stations := hstations
  halts := by
    refine h.pairwise (S := fun s later => s.context.isCancelled = true →
      later.context.isCancelled = true ∧ later.cursor = s.cursor ∧ later.invoked = s.invoked)
      (fun _ hcancelled => ⟨hcancelled, rfl, rfl⟩) (fun hfirst hsecond hcancelled => ?_) Heeds.halts
    obtain ⟨hmiddle, hcursor, hinvoked⟩ := hfirst hcancelled
    obtain ⟨hlater, hcursor', hinvoked'⟩ := hsecond hmiddle
    exact ⟨hlater, hcursor'.trans hcursor, hinvoked'.trans hinvoked⟩
  skips call result hmem hcancelled hlive hroom := by
    obtain ⟨later, hfinds⟩ := h.finds hmem
    obtain ⟨rfl, -⟩ := hfinds.skips hlive hroom hcancelled
    exact ⟨rfl, rfl, rfl, call.invoked_skip _, rfl⟩
  once := h.skips_once
  rests call result hmem hfound := by
    obtain ⟨later, hfinds⟩ := h.finds hmem
    exact hfinds.rests hfound

/-- For all handlers that do not exchange the signal of the request, and all callers: the request
may be cancelled at the start or by any of them at any time, those that catch panics among them. -/
theorem cancellation_stops (handlers : List Handler) (hkeeps : ∀ h ∈ handlers, h.KeepsSignal)
    (caller : Program) (hcaller : caller.KeepsSignal) (e : Execution) :
    StopsWhenCancelled handlers caller e := by
  have hrecords : Records handlers.length 0 Context.KeepsSignal (advance handlers)
      (timelineFrom handlers.length handlers 0) :=
    advanceFrom_records Context.KeepsSignal.lasting hkeeps (Nat.zero_add _)
  have hstart : Heeds Context.KeepsSignal e e := .of_still (.refl _) rfl rfl id
  refine Passes.stops (.stands hstart (caller.passes Context.KeepsSignal.lasting hrecords
    (hcaller _ _ _) (Nat.zero_le e.cursor))) ?_
  rw [timeline, callerStations, List.filterMap_cons, caller.timeline_stations]
  simp only [Instant.station?, timelineFrom_stations]
  rfl

theorem cancellation_stops_of_panic :
    let catching : Handler :=
      .custom none (.advance fun _ => .advance fun _ => .advance fun _ => .finish .ok)
    let failing : Handler :=
      .endpoint "fail" fun scope _ => (.panicked .other, scope.mapContext Context.cancel)
    let handlers : List Handler := [catching, failing, .endpoint "last" fun scope _ => (.ok, scope)]
    let caller : Program := .advance .finish
    let context : Context := { requestId := ⟨0⟩, method := .get, path := "/" }
    let e : Execution := { scope := { context } }
    (∀ h ∈ handlers, h.KeepsSignal) ∧ caller.KeepsSignal ∧ StopsWhenCancelled handlers caller e ∧
      (callerEnd handlers caller e).invoked = [0, 1] ∧
      (callerEnd handlers caller e).context.response = .error 503 "Request timed out" := by
  intro catching failing handlers caller context e
  have hkeeps : ∀ h ∈ handlers, h.KeepsSignal := by
    intro h hmem
    simp only [handlers, List.mem_cons, List.not_mem_nil, or_false] at hmem
    rcases hmem with rfl | rfl | rfl
    · exact fun _ _ _ => trivial
    · exact fun scope _ => scope.context.signal.continues_cancel
    · exact fun scope _ => .refl _
  have hcaller : caller.KeepsSignal := fun _ _ _ => trivial
  exact ⟨hkeeps, hcaller, cancellation_stops handlers hkeeps caller hcaller e, rfl, rfl⟩

end Chain

end RequestRouting

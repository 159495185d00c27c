import RequestRouting.Proofs.Chain.Keeping

/-!
# Timelines of runs

The stations of a run with the advances put in where they are made, each with what it comes to. What
handlers keep of the context is kept from each instant to the next.
-/

set_option autoImplicit false

namespace RequestRouting

inductive Instant where
  | stands (e : Execution)
  | advances (call : Execution) (result : Outcome × Execution)

namespace Instant

def execution : Instant → Execution
  | .stands e => e
  | .advances call _ => call

def station? : Instant → Option Execution
  | .stands e => some e
  | .advances _ _ => none

/-- An advance of a cancelled request that finds handlers left to be entered. -/
def Skips (length : Nat) : Instant → Prop
  | .stands _ => False
  | .advances call _ =>
    call.state ≠ .completed ∧ call.cursor < length ∧ call.context.isCancelled = true

end Instant

def Program.timeline (length : Nat) (advance : Step) (within : Execution → List Instant) :
    Program → Execution → List Instant
  | .finish _, _ => []
  | .read next, e => (next e.scope).timeline length advance within e
  | .write scope next, e =>
    .stands { e with scope := scope } ::
      next.timeline length advance within { e with scope := scope }
  | .gauge meter next, e => (next (e.gauges meter)).timeline length advance within e
  | .inspect next, e => (next (e.view length)).timeline length advance within e
  | .complete next, e => .stands e.complete :: next.timeline length advance within e.complete
  | .advance next, e =>
    .advances e (advance e) ::
      (within e ++ (next (advance e).1).timeline length advance within (advance e).2)

def Handler.timeline (length : Nat) (advance : Step) (within : Execution → List Instant) :
    Handler → Execution → List Instant
  | .custom _ behaviour, e => behaviour.timeline length advance within e
  | h, e => (h.calls length advance e).flatMap
      (fun call => .stands call :: .advances call (advance call) :: within call) ++
      [.stands (h.run length advance e).2]

namespace Chain

def timelineFrom (length : Nat) : List Handler → Nat → Execution → List Instant
  | [], _, e => [.stands (if e.state = .completed then ignore e else e.complete)]
  | h :: rest, index, e =>
    if e.state = .completed then [.stands (ignore e)]
    else if index < e.cursor then timelineFrom length rest (index + 1) e
    else if e.context.isCancelled then [.stands (skip length e)]
    else
      let advance : Step := fun e => advanceFrom length rest (index + 1) e
      let result := h.run length advance (enter h e)
      .stands (enter h e) ::
        (h.timeline length advance (fun call => timelineFrom length rest (index + 1) call)
          (enter h e) ++ [.stands (leave index result.1 result.2)])

def timeline (handlers : List Handler) (caller : Program) (e : Execution) : List Instant :=
  .stands e :: caller.timeline handlers.length (advance handlers)
    (timelineFrom handlers.length handlers 0) e

end Chain

section

variable {length : Nat} {advance : Step} {within : Execution → List Instant}

theorem Program.timeline_stations (program : Program) (e : Execution) :
    (program.timeline length advance within e).filterMap Instant.station? =
      program.stations length advance (fun e => (within e).filterMap Instant.station?) e := by
  induction program generalizing e with
  | finish outcome => rfl
  | read next ih => exact ih _ e
  | write scope next ih => exact congrArg _ (ih _)
  | gauge meter next ih => exact ih _ e
  | inspect next ih => exact ih _ e
  | complete next ih => exact congrArg _ (ih _)
  | advance next ih =>
    rw [Program.timeline, Program.stations, ← ih]
    exact List.filterMap_append

theorem Handler.timeline_stations (handler : Handler) (e : Execution) :
    (handler.timeline length advance within e).filterMap Instant.station? =
      handler.stations length advance (fun e => (within e).filterMap Instant.station?) e := by
  cases handler with
  | custom name behaviour => exact behaviour.timeline_stations e
  | _ => simp [Handler.timeline, Handler.stations, Handler.calls, Instant.station?,
      List.filterMap_cons]

end

namespace Chain

theorem timelineFrom_stations (length : Nat) (handlers : List Handler) (index : Nat)
    (e : Execution) : (timelineFrom length handlers index e).filterMap Instant.station? =
      stationsFrom length handlers index e := by
  induction handlers generalizing index e with
  | nil => rfl
  | cons h rest ih =>
    rw [timelineFrom, stationsFrom]
    split
    · rfl
    · split
      · exact ih (index + 1) e
      · split
        · rfl
        · simp [Handler.timeline_stations, Instant.station?, ih]

/-- What one step does if the handlers keep `R`: a handler is entered only while the request is not
cancelled, and a completed chain stays so. -/
structure Heeds (R : Context → Context → Prop) (e next : Execution) : Prop where
  keeps : R e.context next.context
  position_le : e.cursor ≤ next.cursor
  enters : next.cursor = e.cursor ∧ next.invoked = e.invoked ∨ e.context.isCancelled = false
  settled : e.state = .completed → next.state = .completed

/-- What an advance comes to that enters no handler, given the instants behind it. -/
structure Finds (length : Nat) (call : Execution) (later : List Instant)
    (result : Outcome × Execution) : Prop where
  skips : call.state ≠ .completed → call.cursor < length → call.context.isCancelled →
    result = (.ok, skip length call) ∧ later.head? = some (.stands (skip length call))
  rests : call.state = .completed ∨ length ≤ call.cursor →
    result.1 = .ok ∧ result.2.context = call.context ∧ result.2.state = .completed

/-- The steps and advances of a run through the given instants, the last of which is its end. -/
inductive Passes (length : Nat) (R : Context → Context → Prop) :
    Execution → List Instant → Execution → Prop where
  | done (e : Execution) : Passes length R e [] e
  | stands {e next last : Execution} {more : List Instant} (hstep : Heeds R e next)
      (hmore : Passes length R next more last) : Passes length R e (.stands next :: more) last
  | advances {e last : Execution} {result : Outcome × Execution} {more : List Instant}
      (hfinds : Finds length e more result) (hmore : Passes length R e more last) :
      Passes length R e (.advances e result :: more) last

section

variable {length : Nat} {R : Context → Context → Prop} {e middle last : Execution}
  {result : Outcome × Execution} {first second : List Instant}

theorem Heeds.of_still (hkeeps : R e.context last.context) (hcursor : last.cursor = e.cursor)
    (hinvoked : last.invoked = e.invoked)
    (hsettled : e.state = .completed → last.state = .completed) : Heeds R e last :=
  ⟨hkeeps, Nat.le_of_eq hcursor.symm, .inl ⟨hcursor, hinvoked⟩, hsettled⟩

theorem Finds.append (h : Finds length e first result) (second : List Instant) :
    Finds length e (first ++ second) result where
  skips hlive hroom hcancelled := by
    obtain ⟨hresult, hlater⟩ := h.skips hlive hroom hcancelled
    exact ⟨hresult, by rw [List.head?_append, hlater]; rfl⟩
  rests := h.rests

namespace Passes

theorem one (h : Heeds R e last) : Passes length R e [.stands last] last := .stands h (.done last)

theorem append (h : Passes length R e first middle) (h' : Passes length R middle second last) :
    Passes length R e (first ++ second) last := by
  induction h with
  | done e => exact h'
  | stands hstep _ ih => exact .stands hstep (ih h')
  | advances hfinds _ ih => exact .advances (hfinds.append second) (ih h')

theorem all {P : Execution → Prop} (hstep : ∀ {e next}, Heeds R e next → P e → P next)
    (h : Passes length R e first last) (he : P e) : (∀ x ∈ first, P x.execution) ∧ P last := by
  induction h with
  | done e => exact ⟨fun x hx => absurd hx List.not_mem_nil, he⟩
  | stands hnext _ ih =>
    obtain ⟨hmore, hlast⟩ := ih (hstep hnext he)
    exact ⟨List.forall_mem_cons.mpr ⟨hstep hnext he, hmore⟩, hlast⟩
  | advances _ _ ih =>
    obtain ⟨hmore, hlast⟩ := ih he
    exact ⟨List.forall_mem_cons.mpr ⟨he, hmore⟩, hlast⟩

theorem position_le (h : Passes length R e first last) : e.cursor ≤ last.cursor :=
  (h.all (P := fun s => e.cursor ≤ s.cursor)
    (fun hstep hle => Nat.le_trans hle hstep.position_le) (Nat.le_refl _)).2

theorem pairwise {S : Execution → Execution → Prop} (hrefl : ∀ e, S e e)
    (htrans : ∀ {e middle later}, S e middle → S middle later → S e later)
    (hstep : ∀ {e next}, Heeds R e next → S e next) (h : Passes length R e first last) :
    first.Pairwise fun x later => S x.execution later.execution := by
  have hlater : ∀ {e last : Execution} {more : List Instant}, Passes length R e more last →
      ∀ x ∈ more, S e x.execution := fun {e} _ _ h =>
    (h.all (P := S e) (fun hnext hs => htrans hs (hstep hnext)) (hrefl e)).1
  induction h with
  | done e => exact .nil
  | stands _ hmore ih => exact .cons (hlater hmore) ih
  | advances _ hmore ih => exact .cons (hlater hmore) ih

theorem finds (h : Passes length R e first last) {call : Execution}
    (hmem : .advances call result ∈ first) : ∃ later, Finds length call later result := by
  induction h with
  | done e => exact absurd hmem List.not_mem_nil
  | stands _ _ ih =>
    rcases List.mem_cons.mp hmem with heq | hmore
    · cases heq
    · exact ih hmore
  | advances hfinds _ ih =>
    rcases List.mem_cons.mp hmem with heq | hmore
    · cases heq
      exact ⟨_, hfinds⟩
    · exact ih hmore

theorem skips_once (h : Passes length R e first last) : first.Pairwise fun x later =>
    x.Skips length → later.execution.state = .completed := by
  induction h with
  | done e => exact .nil
  | stands _ _ ih => exact .cons (fun _ _ hskips => hskips.elim) ih
  | advances hfinds hmore ih =>
    refine .cons (fun later hlater hskips => ?_) ih
    obtain ⟨hlive, hroom, hcancelled⟩ := hskips
    obtain ⟨-, hhead⟩ := hfinds.skips hlive hroom hcancelled
    cases hmore with
    | done => cases hhead
    | advances => cases hhead
    | stands hstep hmore =>
      obtain rfl := Instant.stands.inj (Option.some.inj hhead)
      have hdone := hmore.all (P := fun s => s.state = .completed) (fun hnext => hnext.settled) rfl
      rcases List.mem_cons.mp hlater with rfl | hlater
      · rfl
      · exact hdone.1 later hlater

end Passes

def Records (length cursor : Nat) (R : Context → Context → Prop) (advance : Step)
    (within : Execution → List Instant) : Prop :=
  ∀ e, cursor ≤ e.cursor → Finds length e (within e) (advance e) ∧
    Passes length R e (within e) (advance e).2

theorem Records.passes {cursor : Nat} {advance : Step} {within : Execution → List Instant}
    (h : Records length cursor R advance within) (he : cursor ≤ e.cursor) :
    Passes length R e (.advances e (advance e) :: within e) (advance e).2 :=
  .advances (h e he).1 (h e he).2

theorem HandsBack.passes {cursor : Nat} {advance : Step} {within : Execution → List Instant}
    {call : Execution} (h : HandsBack advance call result) (hlasting : Context.Lasting R)
    (hrecords : Records length cursor R advance within) (he : cursor ≤ e.cursor)
    (hcall : Heeds R e call) (hon : HandsOn advance call result)
    (hinvoked : result.2.invoked = (advance call).2.invoked) :
    Passes length R e ([call].flatMap (fun call =>
      .stands call :: .advances call (advance call) :: within call) ++ [.stands result.2])
      result.2 := by
  have hlast : Heeds R (advance call).2 result.2 := by
    refine .of_still ?_ h.cursor hinvoked fun hdone => ?_
    · obtain ⟨response, hcontext⟩ := hon
      rw [hcontext]
      exact hlasting.respond _ response
    · rcases h.state with ⟨-, hsame⟩ | hcompleted
      · rw [hsame, hdone]
      · exact hcompleted
  rw [List.flatMap_singleton, List.cons_append]
  exact .stands hcall ((hrecords.passes (Nat.le_trans he hcall.position_le)).append (.one hlast))

end

end Chain

section

open Chain

variable {length cursor : Nat} {R : Context → Context → Prop} {advance : Step}
  {within : Execution → List Instant} {e : Execution}

theorem Program.passes (hlasting : Context.Lasting R)
    (hrecords : Records length cursor R advance within) (program : Program)
    (hkeeps : program.Keeps R length advance e) (he : cursor ≤ e.cursor) :
    Passes length R e (program.timeline length advance within e)
      (program.run length advance e).2 := by
  induction program generalizing e with
  | finish outcome => exact .done e
  | read next ih => exact ih _ hkeeps he
  | write scope next ih =>
    exact .stands (.of_still hkeeps.1 rfl rfl id) (ih hkeeps.2 he)
  | gauge meter next ih => exact ih _ hkeeps he
  | inspect next ih => exact ih _ hkeeps he
  | complete next ih =>
    exact .stands (.of_still (hlasting.refl _) rfl rfl fun _ => rfl) (ih hkeeps he)
  | advance next ih =>
    have hcall := hrecords.passes he
    exact hcall.append (ih _ hkeeps (Nat.le_trans he hcall.position_le))

theorem RequestIdHeader.heeds_adopt (hlasting : Context.Lasting R) (e : Execution) :
    Heeds R e (adopt e) := by
  refine .of_still ?_ (adopt_cursor e) (invoked_adopt e) fun hdone => ?_
  · obtain ⟨id, hcontext⟩ := adopt_context e
    rw [hcontext]
    exact hlasting.identify _ id
  · rw [adopt]
    split <;> exact hdone

theorem Handler.passes (hlasting : Context.Lasting R)
    (hrecords : Records length cursor R advance within) (handler : Handler)
    (hkeeps : handler.Keeps R) (he : cursor ≤ e.cursor) :
    Passes length R e (handler.timeline length advance within e)
      (handler.run length advance e).2 := by
  have hrefl := hlasting.refl e.context
  cases handler with
  | recovery exposeDetails =>
    exact (Recovery.handsBack exposeDetails e).passes hlasting hrecords he
      (.of_still hrefl rfl rfl id) (Recovery.handsOn exposeDetails e)
      (Recovery.invoked_run exposeDetails e)
  | tracing =>
    exact (Tracing.handsBack e).passes hlasting hrecords he
      (.of_still hrefl rfl (Execution.invoked_log_of_none rfl) id) (Tracing.handsOn e)
      (Tracing.invoked_run e)
  | requestId =>
    exact (RequestIdHeader.handsBack e).passes hlasting hrecords he
      (RequestIdHeader.heeds_adopt hlasting e) (RequestIdHeader.handsOn e)
      (RequestIdHeader.invoked_run e)
  | metrics meter =>
    exact (Metrics.handsBack meter e).passes hlasting hrecords he
      (.of_still hrefl rfl rfl id) (Metrics.handsOn meter e) (Metrics.invoked_run meter e)
  | endpoint name serve => exact .one (.of_still (hkeeps e.scope e.gauges) rfl rfl id)
  | custom name behaviour => exact behaviour.passes hlasting hrecords (hkeeps _ _ _) he

end

namespace Chain

variable {length : Nat} {R : Context → Context → Prop}

theorem leave_state {index : Nat} {outcome : Outcome} {e : Execution}
    (hdone : e.state = .completed) : (leave index outcome e).state = .completed := by
  cases outcome with
  | ok =>
    rw [leave]
    split
    · rfl
    · exact hdone
  | failed error => rfl
  | panicked payload => exact hdone

theorem leave_context (index : Nat) (outcome : Outcome) (e : Execution) :
    (leave index outcome e).context = e.context := by
  cases outcome with
  | ok =>
    rw [leave]
    split <;> rfl
  | failed error => rfl
  | panicked payload => rfl

/-- The handlers in front of the cursor are passed over; then there is none left, or the first one
that is left is skipped if the request was cancelled. -/
theorem advanceFrom_finds (handlers : List Handler) {index : Nat}
    (hlength : index + handlers.length = length) {e : Execution} (he : index ≤ e.cursor) :
    Finds length e (timelineFrom length handlers index e)
      (advanceFrom length handlers index e) := by
  by_cases hdone : e.state = .completed
  · refine ⟨fun hlive => absurd hdone hlive, fun _ => ?_⟩
    rw [advanceFrom_of_completed hdone]
    exact ⟨rfl, rfl, hdone⟩
  induction handlers generalizing index with
  | nil =>
    refine ⟨fun _ hroom => ?_, fun _ => ?_⟩
    · rw [List.length_nil] at hlength
      omega
    · rw [advanceFrom, if_neg hdone]
      exact ⟨rfl, rfl, rfl⟩
  | cons h rest ih =>
    rw [List.length_cons] at hlength
    rw [advanceFrom, timelineFrom, if_neg hdone, if_neg hdone]
    by_cases hpassed : index < e.cursor
    · rw [if_pos hpassed, if_pos hpassed]
      exact ih (by omega) hpassed
    · have hrests : ¬ (e.state = .completed ∨ length ≤ e.cursor) := by
        rintro (hstate | hend)
        · exact hdone hstate
        · omega
      rw [if_neg hpassed, if_neg hpassed]
      refine ⟨fun _ _ hcancelled => ?_, fun hfound => absurd hfound hrests⟩
      rw [if_pos hcancelled, if_pos hcancelled]
      exact ⟨rfl, rfl⟩

theorem advanceFrom_records (hlasting : Context.Lasting R) {handlers : List Handler}
    (hkeeps : ∀ h ∈ handlers, h.Keeps R) {index : Nat}
    (hlength : index + handlers.length = length) :
    Records length index R (advanceFrom length handlers index)
      (timelineFrom length handlers index) := by
  intro e he
  refine ⟨advanceFrom_finds handlers hlength he, ?_⟩
  induction handlers generalizing index e with
  | nil =>
    rw [advanceFrom, timelineFrom]
    split
    · exact .one (.of_still (hlasting.refl _) rfl e.invoked_ignore id)
    · exact .one (.of_still (hlasting.refl _) rfl rfl fun _ => rfl)
  | cons h rest ih =>
    obtain ⟨hfirst, hrest⟩ := List.forall_mem_cons.mp hkeeps
    rw [List.length_cons] at hlength
    rw [advanceFrom, timelineFrom]
    split
    · exact .one (.of_still (hlasting.refl _) rfl e.invoked_ignore id)
    · rename_i hlive
      split
      · rename_i hpassed
        exact ih hrest (by omega) e hpassed
      · split
        · exact .one (.of_still (hlasting.respond _ _) rfl (e.invoked_skip length) fun _ => rfl)
        · rename_i hcancelled
          have hrecords : Records length (index + 1) R (advanceFrom length rest (index + 1))
              (timelineFrom length rest (index + 1)) := fun call hcall =>
            ⟨advanceFrom_finds rest (by omega) hcall, ih hrest (by omega) call hcall⟩
          have hentered : index + 1 ≤ (enter h e).cursor := Nat.succ_le_succ he
          refine .stands ⟨hlasting.refl _, Nat.le_succ _, .inr (by simpa using hcancelled),
            fun hdone => absurd hdone hlive⟩ ?_
          refine (h.passes hlasting hrecords hfirst hentered).append (.one (.of_still ?_
            (leave_cursor index _ _) (Execution.invoked_leave index _ _) leave_state))
          rw [leave_context]
          exact hlasting.refl _

theorem advance_keeps (hlasting : Context.Lasting R)
    (htrans : ∀ {c middle later}, R c middle → R middle later → R c later)
    {handlers : List Handler} (hkeeps : ∀ h ∈ handlers, h.Keeps R) (e : Execution) :
    R e.context (advance handlers e).2.context := by
  have hpasses := (advanceFrom_records hlasting hkeeps (Nat.zero_add _) e (Nat.zero_le _)).2
  exact (hpasses.all (P := fun s => R e.context s.context)
    (fun hstep hs => htrans hs hstep.keeps) (hlasting.refl _)).2

end Chain

end RequestRouting

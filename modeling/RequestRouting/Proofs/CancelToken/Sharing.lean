import Mathlib.Data.List.GetD
import RequestRouting.CancelToken

/-!
# Tokens that share a signal

What a call does to the tokens of a pool, and to what they answer. A call that makes a token leaves
the others alone; a cancellation is seen by the tokens that share the signal, and asking by none.
-/

set_option autoImplicit false

namespace RequestRouting

theorem CancelSignal.isCancelled_latch (signal : CancelSignal) :
    signal.latch.isCancelled = signal.isCancelled := by
  cases hcancelled : signal.isCancelled <;> simp_all [latch, isCancelled]

/-- How a token is made that is no clone. Its deadline has passed by then, or is never reached; with
a timeout of no time it has passed. -/
inductive TokenOrigin where
  | plain
  | timeout (ms : Nat)
  | deadline (passed : Bool)

namespace TokenOrigin

def signal : TokenOrigin → CancelSignal
  | plain => {}
  | timeout ms => .withTimeout ms
  | deadline passed => { deadline := if passed then .passed else .ahead }

def expired : TokenOrigin → Bool
  | plain => false
  | timeout ms => ms == 0
  | deadline passed => passed

theorem isCancelled_signal (origin : TokenOrigin) : origin.signal.isCancelled = origin.expired := by
  cases origin with
  | plain => rfl
  | timeout ms =>
    rw [signal, CancelSignal.withTimeout, CancelSignal.isCancelled, expired]
    by_cases hms : ms = 0 <;> simp [hms]
  | deadline passed => cases passed <;> rfl

end TokenOrigin

inductive TokenStep where
  | make (origin : TokenOrigin)
  | clone (source : Nat)
  | cancel (target : Nat)
  | ask (target : Nat)

namespace TokenStep

def token? : TokenStep → Option Nat
  | make _ => none
  | clone i => some i
  | cancel i => some i
  | ask i => some i

def asks : TokenStep → Bool
  | ask _ => true
  | _ => false

end TokenStep

namespace TokenPool

def step (p : TokenPool) : TokenStep → TokenPool
  | .make origin => (p.new origin.signal).2
  | .clone source => (p.clone source).2
  | .cancel target => p.cancel target
  | .ask target => (p.isCancelled target).2

def run (p : TokenPool) (steps : List TokenStep) : TokenPool := steps.foldl step p

def admits (p : TokenPool) : List TokenStep → Bool
  | [] => true
  | s :: rest => s.token?.all (· < p.tokens.length) && (p.step s).admits rest

def WellFormed (p : TokenPool) : Prop := ∀ place ∈ p.tokens, place < p.signals.length

def Shares (p : TokenPool) (i j : Nat) : Prop :=
  ∃ place, p.tokens[i]? = some place ∧ p.tokens[j]? = some place

variable {p : TokenPool} {s : TokenStep} {i j place : Nat} {signal : CancelSignal}

theorem signal_eq (hi : p.tokens[i]? = some place) (hplace : p.signals[place]? = some signal) :
    p.signal i = signal := by
  simp [TokenPool.signal, hi, hplace]

theorem WellFormed.signal_at (hp : p.WellFormed) (hi : p.tokens[i]? = some place) :
    p.signals[place]? = some (p.signal i) := by
  have hplace := List.getElem?_eq_getElem (hp place (List.mem_of_getElem? hi))
  rw [signal_eq hi hplace, hplace]

theorem Shares.signal_eq (h : p.Shares i j) : p.signal i = p.signal j := by
  obtain ⟨place, hi, hj⟩ := h
  simp [TokenPool.signal, hi, hj]

theorem Shares.symm (h : p.Shares i j) : p.Shares j i := by
  obtain ⟨place, hi, hj⟩ := h
  exact ⟨place, hj, hi⟩

theorem Shares.trans {k : Nat} (h : p.Shares i j) (hk : p.Shares j k) : p.Shares i k := by
  obtain ⟨place, hi, hj⟩ := h
  obtain ⟨other, hj', hk⟩ := hk
  exact ⟨place, hi, hk.trans (hj'.symm.trans hj)⟩

theorem Shares.lt (h : p.Shares i j) : j < p.tokens.length := by
  obtain ⟨place, -, hj⟩ := h
  exact (List.getElem?_eq_some_iff.1 hj).1

theorem shares_self (h : i < p.tokens.length) : p.Shares i i :=
  ⟨_, List.getElem?_eq_getElem h, List.getElem?_eq_getElem h⟩

theorem admits_append (p : TokenPool) (steps later : List TokenStep) :
    p.admits (steps ++ later) = (p.admits steps && (p.run steps).admits later) := by
  induction steps generalizing p with
  | nil => rfl
  | cons s rest ih =>
    rw [List.cons_append, admits, admits, ih, Bool.and_assoc]
    rfl

theorem lt_of_admits (h : p.admits [s] = true) (hs : s.token? = some j) : j < p.tokens.length := by
  simpa [admits, hs] using h

theorem place_of_target (h : p.admits [s] = true) (hs : s.token? = some j) :
    p.tokens[j]? = some (p.tokens.getD j 0) := by
  simp [List.getElem?_eq_getElem (lt_of_admits h hs)]

theorem tokens_prefix_step (p : TokenPool) (s : TokenStep) : p.tokens <+: (p.step s).tokens := by
  cases s with
  | make origin => exact List.prefix_append _ _
  | clone source => exact List.prefix_append _ _
  | cancel target => exact List.prefix_rfl
  | ask target => exact List.prefix_rfl

theorem tokens_prefix_run (p : TokenPool) (steps : List TokenStep) :
    p.tokens <+: (p.run steps).tokens := by
  induction steps generalizing p with
  | nil => exact List.prefix_rfl
  | cons s rest ih => exact (p.tokens_prefix_step s).trans (ih (p.step s))

theorem made_by_step (hnew : p.tokens.length ≤ i) (hi : i < (p.step s).tokens.length) :
    i = p.tokens.length ∧ ((∃ origin, s = .make origin) ∨ ∃ source, s = .clone source) := by
  cases s with
  | make origin =>
    rw [step, new, List.length_append, List.length_singleton] at hi
    exact ⟨Nat.eq_of_le_of_lt_succ hnew hi, .inl ⟨origin, rfl⟩⟩
  | clone source =>
    rw [step, clone, List.length_append, List.length_singleton] at hi
    exact ⟨Nat.eq_of_le_of_lt_succ hnew hi, .inr ⟨source, rfl⟩⟩
  | cancel target => exact absurd hi (Nat.not_lt_of_ge hnew)
  | ask target => exact absurd hi (Nat.not_lt_of_ge hnew)

theorem getElem?_extended {α : Type} {members later : List α} {x : α} (h : members <+: later)
    (hi : members[i]? = some x) : later[i]? = some x := by
  obtain ⟨rest, rfl⟩ := h
  rw [List.getElem?_append_left (List.getElem?_eq_some_iff.1 hi).1, hi]

theorem WellFormed.step (hp : p.WellFormed) (h : p.admits [s] = true) : (p.step s).WellFormed := by
  intro place hplace
  cases s with
  | make origin =>
    rw [TokenPool.step, new, List.length_append, List.length_singleton]
    rcases List.mem_append.1 hplace with hold | hnew
    · exact Nat.lt_succ_of_lt (hp place hold)
    · rw [List.mem_singleton.1 hnew]
      exact Nat.lt_succ_self _
  | clone source =>
    rcases List.mem_append.1 hplace with hold | hnew
    · exact hp place hold
    · rw [List.mem_singleton.1 hnew]
      exact hp _ (List.mem_of_getElem? (place_of_target h rfl))
  | cancel target =>
    rw [TokenPool.step, cancel, List.length_modify]
    exact hp place hplace
  | ask target =>
    rw [TokenPool.step, isCancelled, List.length_modify]
    exact hp place hplace

theorem signal_modify (f : CancelSignal → CancelSignal) (hi : p.tokens[i]? = some place)
    (hplace : p.signals[place]? = some signal) (j : Nat) :
    TokenPool.signal { p with signals := p.signals.modify (p.tokens.getD j 0) f } i =
      if p.tokens.getD j 0 = place then f signal else signal := by
  refine signal_eq (p := { p with signals := _ }) hi ?_
  rw [List.getElem?_modify, hplace]
  split <;> rfl

theorem Shares.step (h : p.Shares i j) (s : TokenStep) : (p.step s).Shares i j := by
  obtain ⟨place, hi, hj⟩ := h
  have hkept := p.tokens_prefix_step s
  exact ⟨place, getElem?_extended hkept hi, getElem?_extended hkept hj⟩

theorem shares_of_step (hi : i < p.tokens.length) (hj : j < p.tokens.length)
    (h : (p.step s).Shares i j) : p.Shares i j := by
  obtain ⟨place, hi', hj'⟩ := h
  have hkept := p.tokens_prefix_step s
  have hi := List.getElem?_eq_getElem hi
  have hj := List.getElem?_eq_getElem hj
  rw [getElem?_extended hkept hi] at hi'
  rw [getElem?_extended hkept hj] at hj'
  exact ⟨place, hi.trans hi', hj.trans hj'⟩

theorem lt_make (p : TokenPool) (origin : TokenOrigin) :
    p.tokens.length < (p.step (.make origin)).tokens.length := by
  rw [TokenPool.step, new, List.length_append]
  exact Nat.lt_succ_self _

theorem not_shares_make (hp : p.WellFormed) (hi : i < p.tokens.length) (origin : TokenOrigin) :
    ¬ (p.step (.make origin)).Shares i p.tokens.length := by
  rintro ⟨place, hi', hnew⟩
  have hplace : p.signals.length = place :=
    Option.some.inj (List.getElem?_concat_length.symm.trans hnew)
  have hi := List.getElem?_eq_getElem hi
  rw [getElem?_extended (p.tokens_prefix_step _) hi, Option.some.injEq] at hi'
  have hlt := hp _ (List.mem_of_getElem? hi)
  rw [hi', hplace] at hlt
  exact Nat.lt_irrefl _ hlt

theorem shares_clone (h : p.admits [.clone j] = true) :
    (p.step (.clone j)).Shares p.tokens.length j :=
  ⟨p.tokens.getD j 0, List.getElem?_concat_length,
    getElem?_extended (p.tokens_prefix_step _) (place_of_target h rfl)⟩

theorem signal_make (p : TokenPool) (origin : TokenOrigin) :
    (p.step (.make origin)).signal p.tokens.length = origin.signal :=
  signal_eq List.getElem?_concat_length List.getElem?_concat_length

/-- All that a token which is there before takes notice of is a cancellation of one that shares its
signal. -/
theorem isCancelled_step (hp : p.WellFormed) (h : p.admits [s] = true)
    (hi : i < p.tokens.length) :
    ((p.step s).signal i).isCancelled = true ↔
      (p.signal i).isCancelled = true ∨ ∃ j, s = .cancel j ∧ p.Shares i j := by
  obtain ⟨place, hi⟩ : ∃ place, p.tokens[i]? = some place := ⟨_, List.getElem?_eq_getElem hi⟩
  have hplace : p.signals[place]? = some (p.signal i) := hp.signal_at hi
  have hafter : (p.step s).tokens[i]? = some place := getElem?_extended (p.tokens_prefix_step s) hi
  cases s with
  | make origin =>
    have hkept : (p.step (.make origin)).signals[place]? = some (p.signal i) :=
      getElem?_extended (List.prefix_append _ _) hplace
    rw [signal_eq hafter hkept]
    simp
  | clone source =>
    rw [signal_eq (p := p.step (.clone source)) hafter hplace]
    simp
  | cancel target =>
    have htarget := place_of_target (s := .cancel target) h rfl
    rw [TokenPool.step, cancel, signal_modify CancelSignal.cancel hi hplace]
    split
    · rename_i hsame
      rw [hsame] at htarget
      exact ⟨fun _ => .inr ⟨target, rfl, place, hi, htarget⟩, fun _ => rfl⟩
    · rename_i hother
      refine ⟨.inl, fun hcancelled => hcancelled.resolve_right ?_⟩
      rintro ⟨j, hj, place', hi', hj'⟩
      cases hj
      rw [htarget] at hj'
      rw [hi] at hi'
      exact hother (Option.some.inj (hj'.trans hi'.symm))
  | ask target =>
    rw [TokenPool.step, isCancelled, signal_modify CancelSignal.latch hi hplace]
    split <;> simp [CancelSignal.isCancelled_latch]

structure Alike (p p' : TokenPool) : Prop where
  tokens : p'.tokens = p.tokens
  flags : p'.signals.map CancelSignal.isCancelled = p.signals.map CancelSignal.isCancelled

variable {p' : TokenPool}

theorem Alike.isCancelled (h : p.Alike p') (i : Nat) :
    (p'.signal i).isCancelled = (p.signal i).isCancelled := by
  have hflag : ∀ p : TokenPool, (p.signal i).isCancelled =
      (p.signals.map CancelSignal.isCancelled).getD (p.tokens.getD i 0) false :=
    fun _ => (List.getD_map _ _ CancelSignal.isCancelled).symm
  rw [hflag, hflag, h.tokens, h.flags]

theorem flags_modify (signals : List CancelSignal) (place : Nat) {f : CancelSignal → CancelSignal}
    {g : Bool → Bool} (h : ∀ signal, (f signal).isCancelled = g signal.isCancelled) :
    (signals.modify place f).map CancelSignal.isCancelled =
      (signals.map CancelSignal.isCancelled).modify place g := by
  refine List.ext_getElem? fun k => ?_
  rw [List.getElem?_map, List.getElem?_modify, List.getElem?_modify, List.getElem?_map]
  split <;> cases signals[k]? <;> simp [h]

theorem flags_cancel (signals : List CancelSignal) (place : Nat) :
    (signals.modify place CancelSignal.cancel).map CancelSignal.isCancelled =
      (signals.map CancelSignal.isCancelled).modify place fun _ => true :=
  flags_modify signals place fun _ => rfl

theorem flags_latch (signals : List CancelSignal) (place : Nat) :
    (signals.modify place CancelSignal.latch).map CancelSignal.isCancelled =
      signals.map CancelSignal.isCancelled := by
  rw [flags_modify (g := id) signals place CancelSignal.isCancelled_latch, List.modify_id]

theorem Alike.step (h : p.Alike p') (s : TokenStep) : (p.step s).Alike (p'.step s) := by
  have hlength : p'.signals.length = p.signals.length := by
    simpa using congrArg List.length h.flags
  cases s with
  | make origin =>
    exact ⟨by simp [TokenPool.step, new, h.tokens, hlength],
      by simp [TokenPool.step, new, h.flags]⟩
  | clone source => exact ⟨by simp [TokenPool.step, clone, h.tokens], h.flags⟩
  | cancel target =>
    refine ⟨h.tokens, ?_⟩
    rw [TokenPool.step, TokenPool.step, cancel, cancel, flags_cancel, flags_cancel, h.tokens,
      h.flags]
  | ask target =>
    exact ⟨h.tokens, (flags_latch _ _).trans (h.flags.trans (flags_latch _ _).symm)⟩

theorem Alike.ask (h : p.Alike p') (target : Nat) : p.Alike (p'.step (.ask target)) :=
  ⟨h.tokens, (flags_latch _ _).trans h.flags⟩

theorem Alike.run (h : p.Alike p') (steps : List TokenStep) :
    (p.run (steps.filter fun s => !s.asks)).Alike (p'.run steps) := by
  induction steps generalizing p p' with
  | nil => exact h
  | cons s rest ih =>
    cases s with
    | make origin => exact ih (h.step (.make origin))
    | clone source => exact ih (h.step (.clone source))
    | cancel target => exact ih (h.step (.cancel target))
    | ask target => exact ih (h.ask target)

end TokenPool

end RequestRouting

import Mathlib.Data.List.Induction
import RequestRouting.Proofs.Router.Family

/-!
# Routers set up with groups

A router is set up step by step: middleware and routes are added to it, groups are opened, within
one another too, and middleware and routes are added to the groups. The chain of a route is told by
the steps in front of the one that registered it.
-/

set_option autoImplicit false

namespace RequestRouting

structure RouterSetup extends LoggedRouter where
  groups : List RouteGroup := []

inductive SetupStep where
  | change (step : RouterStep)
  | openGroup (base : String)
  | openNested (parent : Nat) (base : String)
  | useIn (group : Nat) (middleware : Handler)
  | registerIn (group : Nat) (method : Method) (pattern : String) (handler : Handler)

namespace SetupStep

def installed? : SetupStep → Option Handler
  | .change (.use middleware) => some middleware
  | _ => none

def added? (group : Nat) : SetupStep → Option Handler
  | .useIn target middleware => if target = group then some middleware else none
  | _ => none

end SetupStep

namespace RouterSetup

def step (s : RouterSetup) : SetupStep → RouterSetup
  | .change change => { s with toLoggedRouter := s.toLoggedRouter.step change }
  | .openGroup base => { s with groups := s.groups ++ [.ofBase base] }
  | .openNested parent base =>
    { s with groups := s.groups ++ (s.groups[parent]?.map fun g => g.nested base).toList }
  | .useIn group middleware =>
    { s with groups := s.groups.modify group fun g => g.use middleware }
  | .registerIn group method pattern handler =>
    match s.groups[group]? with
    | some g => { s with toLoggedRouter := s.toLoggedRouter.registerIn g method pattern handler }
    | none => s

def run (steps : List SetupStep) : RouterSetup := steps.foldl step {}

def installed (steps : List SetupStep) : List Handler := steps.filterMap SetupStep.installed?

def added (group : Nat) (steps : List SetupStep) : List Handler :=
  steps.filterMap (SetupStep.added? group)

/-- The middleware of a group after the steps: what was added to it since it was opened, behind that
which its parent had at that moment. -/
inductive GroupMiddleware : List SetupStep → Nat → List Handler → Prop where
  | opened (before after : List SetupStep) (base : String) :
      GroupMiddleware (before ++ .openGroup base :: after) (run before).groups.length
        (added (run before).groups.length after)
  | nested (before after : List SetupStep) {parent : Nat} (base : String)
      {inherited : List Handler} (hparent : GroupMiddleware before parent inherited) :
      GroupMiddleware (before ++ .openNested parent base :: after) (run before).groups.length
        (inherited ++ added (run before).groups.length after)

theorem run_append (steps more : List SetupStep) :
    run (steps ++ more) = more.foldl step (run steps) := List.foldl_append

theorem run_snoc (steps : List SetupStep) (last : SetupStep) :
    run (steps ++ [last]) = (run steps).step last := run_append steps [last]

theorem added_append (group : Nat) (steps more : List SetupStep) :
    added group (steps ++ more) = added group steps ++ added group more := List.filterMap_append

theorem GroupMiddleware.append {steps : List SetupStep} {group : Nat} {given : List Handler}
    (h : GroupMiddleware steps group given) (more : List SetupStep) :
    GroupMiddleware (steps ++ more) group (given ++ added group more) := by
  cases h with
  | opened before after base =>
    rw [List.append_assoc, ← added_append]
    exact .opened before (after ++ more) base
  | nested before after base hparent =>
    rw [List.append_assoc, List.append_assoc, ← added_append]
    exact .nested before (after ++ more) base hparent

theorem added_singleton (group : Nat) (next : SetupStep) :
    added group [next] = (next.added? group).toList := by
  rw [added, List.filterMap_cons]
  cases next.added? group <;> rfl

section

variable {s : RouterSetup} {group : Nat} {g : RouteGroup}

theorem group_step (h : s.groups[group]? = some g) (next : SetupStep) :
    (s.step next).groups[group]? =
      some ⟨g.base, g.middleware ++ added group [next]⟩ := by
  have hgroup : group < s.groups.length := (List.getElem?_eq_some_iff.mp h).1
  rw [added_singleton]
  cases next with
  | change change => simpa [step, SetupStep.added?] using h
  | openGroup base => simpa [step, SetupStep.added?, List.getElem?_append_left hgroup] using h
  | openNested parent base =>
    simpa [step, SetupStep.added?, List.getElem?_append_left hgroup] using h
  | useIn target middleware =>
    rw [step, List.getElem?_modify, h, SetupStep.added?]
    split
    · rfl
    · simp
  | registerIn target method pattern handler =>
    rw [step]
    split <;> simpa [SetupStep.added?] using h

theorem group_steps (h : s.groups[group]? = some g) (steps : List SetupStep) :
    (steps.foldl step s).groups[group]? =
      some ⟨g.base, g.middleware ++ added group steps⟩ := by
  induction steps generalizing s g with
  | nil => simpa [added] using h
  | cons next rest ih =>
    rw [List.foldl_cons, ih (group_step h next), ← List.singleton_append (l := rest),
      added_append, List.append_assoc]

theorem group_opened {next : SetupStep} (hnone : s.groups[group]? = none)
    (h : (s.step next).groups[group]? = some g) : group = s.groups.length ∧
      ((∃ base, next = .openGroup base ∧ g = .ofBase base) ∨
        ∃ parent base p, next = .openNested parent base ∧ s.groups[parent]? = some p ∧
          g = p.nested base) := by
  have hlength : s.groups.length ≤ group := List.getElem?_eq_none_iff.mp hnone
  cases next with
  | change change =>
    rw [show (s.step (.change change)).groups = s.groups from rfl, hnone] at h
    cases h
  | openGroup base =>
    rw [step, List.getElem?_append_right hlength, List.getElem?_singleton] at h
    split at h
    · exact ⟨by omega, .inl ⟨base, rfl, (Option.some.inj h).symm⟩⟩
    · cases h
  | openNested parent base =>
    rw [step, List.getElem?_append_right hlength] at h
    cases hparent : s.groups[parent]? with
    | none => simp [hparent] at h
    | some p =>
      rw [hparent, Option.map_some, Option.toList_some, List.getElem?_singleton] at h
      split at h
      · exact ⟨by omega, .inr ⟨parent, base, p, rfl, hparent, (Option.some.inj h).symm⟩⟩
      · cases h
  | useIn target middleware =>
    rw [step, List.getElem?_modify, hnone] at h
    cases h
  | registerIn target method pattern handler =>
    rw [step] at h
    split at h
    · rw [hnone] at h
      cases h
    · rw [hnone] at h
      cases h

end

theorem GroupMiddleware.holds {steps : List SetupStep} {group : Nat} {given : List Handler}
    (h : GroupMiddleware steps group given) :
    ∃ base, (run steps).groups[group]? = some ⟨base, given⟩ := by
  induction h with
  | opened before after base =>
    have hopened : (run (before ++ [.openGroup base])).groups[(run before).groups.length]? =
        some (.ofBase base) := by
      rw [run_snoc, step]
      exact List.getElem?_concat_length
    rw [← List.singleton_append, ← List.append_assoc, run_append]
    exact ⟨_, group_steps hopened after⟩
  | @nested before after parent base inherited _ ih =>
    obtain ⟨outer, hparent⟩ := ih
    have hopened : (run (before ++ [.openNested parent base])).groups[
        (run before).groups.length]? = some (RouteGroup.nested ⟨outer, inherited⟩ base) := by
      rw [run_snoc, step, hparent]
      exact List.getElem?_concat_length
    rw [← List.singleton_append, ← List.append_assoc, run_append]
    exact ⟨_, group_steps hopened after⟩

theorem groupMiddleware_of_group {steps : List SetupStep} {group : Nat} {g : RouteGroup}
    (h : (run steps).groups[group]? = some g) : GroupMiddleware steps group g.middleware := by
  induction steps using List.reverseRecOn generalizing group g with
  | nil => cases h
  | append_singleton steps last ih =>
    rw [run_snoc] at h
    cases hold : (run steps).groups[group]? with
    | none =>
      obtain ⟨rfl, ⟨base, rfl, rfl⟩ | ⟨parent, base, p, rfl, hparent, rfl⟩⟩ := group_opened hold h
      · exact .opened steps [] base
      · have hnested := GroupMiddleware.nested steps [] base (ih hparent)
        rw [added, List.filterMap_nil, List.append_nil] at hnested
        exact hnested
    | some old =>
      rw [group_step hold last, Option.some.injEq] at h
      rw [← h]
      exact (ih hold).append [last]

theorem groupMiddleware_iff {steps : List SetupStep} {group : Nat} {g : RouteGroup}
    (h : (run steps).groups[group]? = some g) (given : List Handler) :
    GroupMiddleware steps group given ↔ given = g.middleware := by
  constructor
  · intro hgiven
    obtain ⟨base, hholds⟩ := hgiven.holds
    rw [h, Option.some.injEq] at hholds
    rw [hholds]
  · rintro rfl
    exact groupMiddleware_of_group h

end RouterSetup

end RequestRouting

import Mathlib.Data.List.Induction
import RequestRouting.Proofs.SharedRouter.Revision

/-!
# The settings of shared routers

The settings of lookups are stored twice, in the published router and in the configuration that is
kept for later ones. They agree from the first configuration on.
-/

set_option autoImplicit false

namespace RequestRouting

/-- The settings that lookups depend on. -/
def RuntimeConfig.settings (c : RuntimeConfig) : Bool × Nat :=
  (c.headFallback, c.slowMatchThreshold)

def Router.settings (r : Router) : Bool × Nat := (r.headFallback, r.slowMatchThreshold)

theorem Router.registerWith_settings (r : Router) (method : Method) (pattern : String)
    (middleware handlers : List Handler) :
    (r.registerWith method pattern middleware handlers).2.settings = r.settings := by
  rw [registerWith]
  split <;> rfl

theorem Revision.run_settings {ε : Type} (revision : Revision ε) (r : Router) :
    (revision.run r).2.settings = r.settings := by
  induction revision generalizing r with
  | finish result => rfl
  | read next ih => exact ih r r
  | use middleware next ih => exact ih (r.use middleware)
  | register method pattern middleware handlers next ih =>
    exact (ih _ _).trans (r.registerWith_settings method pattern middleware handlers)

namespace SharedStep

def config? : SharedStep → Option RuntimeConfig
  | configure config => some config
  | serve config => some config
  | _ => none

def table? : SharedStep → Option Router
  | replace table => some table
  | _ => none

end SharedStep

namespace SharedRouter

def opened (table : Router) : Option RuntimeConfig → SharedRouter
  | none => new table
  | some config => withConfig table config

/-- The settings are those of the configuration, and those of the table if there is none. -/
def Settles (s : SharedRouter) (table : Router) : Prop :=
  s.load.settings = match s.config with
    | some config => config.settings
    | none => table.settings

theorem opened_settles (table : Router) (start : Option RuntimeConfig) :
    (opened table start).Settles table := by
  cases start <;> rfl

theorem opened_config (table : Router) (start : Option RuntimeConfig) :
    (opened table start).config = start := by
  cases start <;> rfl

theorem update_keeps {ε : Type} (s : SharedRouter) (revision : Revision ε) :
    (s.update revision.run).2.config = s.config ∧
      (s.update revision.run).2.load.settings = s.load.settings := by
  rcases s.update_cases revision.run with ⟨-, hnext⟩ | ⟨e, -, hnext⟩
  · rw [hnext]
    exact ⟨rfl, revision.run_settings s.load⟩
  · rw [hnext]
    exact ⟨rfl, rfl⟩

theorem grow_keeps (s : SharedRouter) (growth : SharedGrowth) :
    (s.grow growth).config = s.config ∧ (s.grow growth).load.settings = s.load.settings := by
  cases growth with
  | register method pattern handler =>
    rw [grow, register_eq_update]
    exact s.update_keeps _
  | update revision => exact s.update_keeps revision
  | load => exact ⟨rfl, rfl⟩
  | resolve method path => exact ⟨rfl, rfl⟩

theorem config_step (s : SharedRouter) (last : SharedStep) :
    (s.step last).config = last.config?.or s.config := by
  cases last with
  | grow growth => exact (s.grow_keeps growth).1
  | configure config => rfl
  | serve config => rfl
  | replace table => rfl

theorem Settles.step {s : SharedRouter} {table : Router} (h : s.Settles table)
    (last : SharedStep) : (s.step last).Settles (last.table?.getD table) := by
  cases last with
  | grow growth =>
    obtain ⟨hconfig, hsettings⟩ := s.grow_keeps growth
    rw [Settles, SharedRouter.step, hconfig, hsettings]
    exact h
  | configure config => rfl
  | serve config => rfl
  | replace next =>
    rw [Settles, SharedRouter.step, replace, load]
    cases s.config <;> rfl

theorem run_snoc (s : SharedRouter) (steps : List SharedStep) (last : SharedStep) :
    s.run (steps ++ [last]) = (s.run steps).step last := List.foldl_concat ..

theorem getLast?_filterMap_snoc {β : Type} (f : SharedStep → Option β) (steps : List SharedStep)
    (last : SharedStep) :
    ((steps ++ [last]).filterMap f).getLast? = (f last).or (steps.filterMap f).getLast? := by
  rw [List.filterMap_append, List.getLast?_append]
  cases hlast : f last <;> simp [hlast]

theorem config_run (s : SharedRouter) (steps : List SharedStep) :
    (s.run steps).config = (steps.filterMap SharedStep.config?).getLast?.or s.config := by
  induction steps using List.reverseRecOn with
  | nil => rfl
  | append_singleton steps last ih =>
    rw [run_snoc, config_step, ih, getLast?_filterMap_snoc, Option.or_assoc]

theorem Settles.run {s : SharedRouter} {table : Router} (h : s.Settles table)
    (steps : List SharedStep) :
    (s.run steps).Settles ((steps.filterMap SharedStep.table?).getLast?.getD table) := by
  induction steps using List.reverseRecOn with
  | nil => exact h
  | append_singleton steps last ih =>
    have hlast := ih.step last
    rw [run_snoc, getLast?_filterMap_snoc]
    cases htable : last.table? with
    | none => rwa [htable] at hlast
    | some table' => rwa [htable] at hlast

/-- After any steps the configuration is the last one that was given, and the published router has
its settings; without one it has those of its own. Neither a configuration nor a change that fails
is seen in the routes or in the installed middleware. -/
theorem settings_follow_config (table : Router) (start : Option RuntimeConfig)
    (steps : List SharedStep) :
    let s := (opened table start).run steps
    s.config = (steps.filterMap SharedStep.config?).getLast?.or start ∧
    (∀ config, s.config = some config → s.load.settings = config.settings) ∧
    (s.config = none → s.load.settings =
      ((steps.filterMap SharedStep.table?).getLast?.getD table).settings) ∧
    (∀ config, (s.configure config).load.entries = s.load.entries ∧
      (s.configure config).load.middleware = s.load.middleware) ∧
    (∀ (ε : Type) (change : Router → Except ε Unit × Router) (e : ε),
      (s.update change).1 = .error e → (s.update change).2 = s) ∧
    ∀ method pattern handler e, (s.register method pattern handler).1 = .error e →
      (s.register method pattern handler).2 = s := by
  intro s
  have hsettles := (opened_settles table start).run steps
  have hfailed : ∀ (ε : Type) (change : Router → Except ε Unit × Router) (e : ε),
      (s.update change).1 = .error e → (s.update change).2 = s := by
    intro ε change e herror
    rcases s.update_cases change with ⟨-, hnext⟩ | ⟨e', -, hnext⟩
    · rw [hnext] at herror
      cases herror
    · rw [hnext]
  refine ⟨?_, ?_, ?_, fun config => ⟨rfl, rfl⟩, hfailed,
    fun method pattern handler => hfailed _ fun r => r.register method pattern handler⟩
  · rw [config_run, opened_config]
  · intro config hconfig
    rw [Settles, hconfig] at hsettles
    exact hsettles
  · intro hconfig
    rw [Settles, hconfig] at hsettles
    exact hsettles

end SharedRouter

end RequestRouting

import RequestRouting.Proofs.Router.Groups

/-!
# The assembly of chains

The chain of a route is put together when the route is registered, and is not changed later on: the
middleware installed for all routes so far, then that of the registration or of the group, then the
handlers of the route.
-/

set_option autoImplicit false

namespace RequestRouting.RouterSetup

/-- How the step, behind those before, puts together the chain of the route that it registers. -/
inductive Assembles (before : List SetupStep) : SetupStep → RouteEntry → Prop where
  | given {e : RouteEntry} {middleware handlers : List Handler}
      (hchain : e.chain = installed before ++ middleware ++ handlers) :
      Assembles before (.change (.register e.method e.pattern middleware handlers)) e
  | grouped {e : RouteEntry} {group : Nat} {base pattern : String} {inherited : List Handler}
      {handler : Handler} (hgroup : (run before).groups[group]? = some ⟨base, inherited⟩)
      (hinherited : ∀ other, GroupMiddleware before group other ↔ other = inherited)
      (hpattern : e.pattern = RouteGroup.join base pattern)
      (hchain : e.chain = installed before ++ inherited ++ [handler]) :
      Assembles before (.registerIn group e.method pattern handler) e

theorem registerWith_middleware (r : Router) (method : Method) (pattern : String)
    (middleware handlers : List Handler) :
    (r.registerWith method pattern middleware handlers).2.middleware = r.middleware := by
  rw [Router.registerWith]
  split <;> rfl

theorem register_middleware (g : RouteGroup) (r : Router) (method : Method) (pattern : String)
    (handler : Handler) : (g.register r method pattern handler).2.middleware = r.middleware := by
  rw [RouteGroup.register]
  split
  · exact registerWith_middleware r method _ _ _
  · rfl

theorem middleware_run (steps : List SetupStep) :
    (run steps).router.middleware = installed steps := by
  induction steps using List.reverseRecOn with
  | nil => rfl
  | append_singleton steps last ih =>
    rw [run_snoc, installed, List.filterMap_append, ← installed, ← ih]
    cases last with
    | change change =>
      cases change with
      | configure config => exact (List.append_nil _).symm
      | use middleware => rfl
      | register method pattern middleware handlers =>
        exact (registerWith_middleware _ _ _ _ _).trans (List.append_nil _).symm
    | openGroup base => exact (List.append_nil _).symm
    | openNested parent base => exact (List.append_nil _).symm
    | useIn group middleware => exact (List.append_nil _).symm
    | registerIn group method pattern handler =>
      rw [step]
      split
      · exact (register_middleware _ _ _ _ _).trans (List.append_nil _).symm
      · exact (List.append_nil _).symm

theorem record_cases (log : List RouteEntry) (e : RouteEntry) (result : Except PatternError Unit) :
    Router.record log e result = log ∨ Router.record log e result = log ++ [e] := by
  cases result with
  | error error => exact .inl rfl
  | ok _ => exact .inr rfl

theorem log_snoc (steps : List SetupStep) (last : SetupStep) :
    (run (steps ++ [last])).log = (run steps).log ∨
      ∃ e, (run (steps ++ [last])).log = (run steps).log ++ [e] ∧ Assembles steps last e := by
  rw [run_snoc]
  cases last with
  | change change =>
    cases change with
    | configure config => exact .inl rfl
    | use middleware => exact .inl rfl
    | register method pattern middleware handlers =>
      refine (record_cases _ _ _).imp id fun hlog => ⟨_, hlog, ?_⟩
      refine .given (e := (run steps).router.newEntry method pattern middleware handlers) ?_
      rw [Router.newEntry, middleware_run]
  | openGroup base => exact .inl rfl
  | openNested parent base => exact .inl rfl
  | useIn group middleware => exact .inl rfl
  | registerIn group method pattern handler =>
    rw [step]
    cases hgroup : (run steps).groups[group]? with
    | none => exact .inl rfl
    | some g =>
      refine (record_cases _ _ _).imp id fun hlog => ⟨_, hlog, ?_⟩
      refine .grouped (e := (run steps).router.newEntry method (RouteGroup.join g.base pattern)
        g.middleware [handler]) hgroup (groupMiddleware_iff hgroup) rfl ?_
      rw [Router.newEntry, middleware_run]

theorem assembles_of_log {steps : List SetupStep} {earlier later : List RouteEntry}
    {e : RouteEntry} (h : (run steps).log = earlier ++ e :: later) :
    ∃ before last after, steps = before ++ last :: after ∧ Assembles before last e ∧
      (run before).log = earlier ∧ (run (before ++ [last])).log = earlier ++ [e] := by
  induction steps using List.reverseRecOn generalizing later with
  | nil => simp [run] at h
  | append_singleton steps last ih =>
    have hearlier : ∀ {later}, (run steps).log = earlier ++ e :: later →
        ∃ before first after, steps ++ [last] = before ++ first :: after ∧
          Assembles before first e ∧ (run before).log = earlier ∧
            (run (before ++ [first])).log = earlier ++ [e] := by
      intro later hlog
      obtain ⟨before, first, after, hsteps, hrest⟩ := ih hlog
      exact ⟨before, first, after ++ [last], by rw [hsteps]; simp, hrest⟩
    rcases log_snoc steps last with hsame | ⟨added, hadded, hassembles⟩
    · exact hearlier (hsame ▸ h)
    · rw [h] at hadded
      rcases List.eq_nil_or_concat later with rfl | ⟨front, latest, rfl⟩
      · obtain ⟨hlog, heq⟩ := List.append_inj' hadded rfl
        obtain rfl := List.singleton_inj.mp heq
        exact ⟨steps, last, [], rfl, hassembles, hlog.symm, h⟩
      · rw [List.concat_eq_append, ← List.cons_append, ← List.append_assoc] at hadded
        exact hearlier (List.append_inj' hadded rfl).1.symm

theorem keeps_run (steps : List SetupStep) : (run steps).Keeps := by
  induction steps using List.reverseRecOn with
  | nil => exact LoggedRouter.new_keeps
  | append_singleton steps last ih =>
    rw [run_snoc]
    cases last with
    | change change => exact ih.step change
    | openGroup base => exact ih
    | openNested parent base => exact ih
    | useIn group middleware => exact ih
    | registerIn group method pattern handler =>
      rw [step]
      split
      · exact ih.registerIn _ method pattern handler
      · exact ih

theorem mem_entries_iff {steps : List SetupStep} {e : RouteEntry} :
    e ∈ (run steps).router.entries ↔ latestBy? RouteEntry.key (run steps).log e.key = some e := by
  obtain ⟨history, hfollows, hlog⟩ := keeps_run steps
  rw [hfollows.mem_entries_iff, hlog]

theorem log_append (steps more : List SetupStep) :
    ∃ later, (run (steps ++ more)).log = (run steps).log ++ later := by
  induction more using List.reverseRecOn with
  | nil => exact ⟨[], by rw [List.append_nil, List.append_nil]⟩
  | append_singleton more last ih =>
    obtain ⟨later, hlater⟩ := ih
    rw [← List.append_assoc]
    rcases log_snoc (steps ++ more) last with hsame | ⟨e, hadded, -⟩
    · exact ⟨later, hsame.trans hlater⟩
    · exact ⟨later ++ [e], by rw [hadded, hlater, List.append_assoc]⟩

structure ChainsAssembled (steps : List SetupStep) : Prop where
  /-- Each route was put together by the step that registered it last. -/
  origin : ∀ e ∈ (run steps).router.entries, ∃ before last after later,
    steps = before ++ last :: after ∧ Assembles before last e ∧
      (run (before ++ [last])).log = (run before).log ++ [e] ∧
      (run steps).log = (run before).log ++ e :: later ∧ ∀ newer ∈ later, newer.key ≠ e.key
  /-- It stays listed as it is until another one is registered under its method and parts. -/
  lasting : ∀ more, ∃ later, (run (steps ++ more)).log = (run steps).log ++ later ∧
    ∀ e ∈ (run steps).router.entries, e ∈ (run (steps ++ more)).router.entries ∨
      ∃ newer ∈ later, newer.key = e.key

/-- Whatever is installed, opened, added and registered in whatever order, with success or not. -/
theorem chains_assembled (steps : List SetupStep) : ChainsAssembled steps where
  origin e he := by
    obtain ⟨earlier, later, hlog, hlater⟩ := latestBy?_split (mem_entries_iff.mp he)
    obtain ⟨before, last, after, hsteps, hassembles, rfl, hadded⟩ := assembles_of_log hlog
    exact ⟨before, last, after, later, hsteps, hassembles, hadded, hlog, hlater⟩
  lasting more := by
    obtain ⟨later, hlog⟩ := log_append steps more
    refine ⟨later, hlog, fun e he => ?_⟩
    by_cases hnewer : ∃ newer ∈ later, newer.key = e.key
    · exact .inr hnewer
    · have hlater : ∀ newer ∈ later, newer.key ≠ e.key := fun newer hmem hkey =>
        hnewer ⟨newer, hmem, hkey⟩
      refine .inl (mem_entries_iff.mpr ?_)
      rw [hlog, latestBy?_append_of_forall_ne hlater]
      exact mem_entries_iff.mp he

end RequestRouting.RouterSetup

import Mathlib.Data.List.Forall2
import Mathlib.Data.List.Pairwise
import RequestRouting.Proofs.Router.Assembly
import RequestRouting.Proofs.Router.Registration
import RequestRouting.Proofs.RouteTable.Rows

/-!
# Routers from tables

A router is built from a table exactly if each row can be registered by itself and no two rows are
rivals, whatever their order. Of the rows with one key the last is in the list of routes, at the
place of the first.
-/

set_option autoImplicit false

namespace RequestRouting

theorem Method.token_injective : Function.Injective Method.token := fun _ _ => eq_of_token_eq

/-- The route comes from the row, behind middleware of the given names. -/
structure RouteSpec.Becomes (registry : HandlerRegistry) (installed : List String)
    (s : RouteSpec) (e : RouteEntry) : Prop where
  method : e.method.token = s.token
  path : e.pattern = s.path
  chain : e.chain.map some = (installed ++ s.names).map registry.get?

/-- The route keeps the row from being registered. -/
def RouteSpec.RivalOf (s : RouteSpec) (e : RouteEntry) : Prop :=
  e.method.token = s.token ∧ Pattern.Rivals (pathParts e.pattern) (pathParts s.path)

theorem RouteSpec.Becomes.rivalOf_iff {registry : HandlerRegistry} {installed : List String}
    {s other : RouteSpec} {e : RouteEntry} (h : s.Becomes registry installed e) :
    other.RivalOf e ↔ s.Rivals other := by
  rw [RivalOf, h.method, h.path, Rivals]

/-- All that is asked of a table. The order of the rows does not matter. -/
structure RouteTable.Sound (registry : HandlerRegistry) (t : RouteTable) : Prop where
  names : ∀ name ∈ t.referencedNames,
    registry.contains name = true ∨ registry.fallback.isSome = true
  methods : ∀ s ∈ t.routes, Method.isToken (Text.trim s.method) = true
  paths : ∀ s ∈ t.routes, ∃ parts, Pattern.parse s.path = .ok parts
  rivals : ∀ s ∈ t.routes, ∀ other ∈ t.routes, ¬ s.Rivals other

theorem RouteTable.sound_iff {registry : HandlerRegistry} {t : RouteTable} :
    t.Sound registry ↔ (∀ name ∈ t.middleware, (registry.get? name).isSome = true) ∧
      (∀ s ∈ t.routes, s.Legible registry) ∧
        t.routes.Pairwise fun s other => ¬ s.Rivals other := by
  constructor
  · intro h
    have hnames : ∀ name ∈ t.referencedNames, (registry.get? name).isSome = true :=
      fun name hname => (registry.get?_isSome_iff name).2 (h.names name hname)
    refine ⟨fun name hname => hnames name (mem_referencedNames.2 (.inl hname)), ?_, ?_⟩
    · intro s hs
      exact ⟨h.methods s hs,
        fun name hname => hnames name (mem_referencedNames.2 (.inr ⟨s, hs, hname⟩)), h.paths s hs⟩
    · exact List.pairwise_of_forall_mem_list h.rivals
  · rintro ⟨hmiddleware, hlegible, hpairs⟩
    refine ⟨fun name hname => (registry.get?_isSome_iff name).1 ?_,
      fun s hs => (hlegible s hs).method, fun s hs => (hlegible s hs).path, ?_⟩
    · rcases mem_referencedNames.1 hname with hname | ⟨s, hs, hname⟩
      · exact hmiddleware name hname
      · exact (hlegible s hs).names name hname
    · have hsymm : Std.Symm fun s other : RouteSpec => ¬ s.Rivals other :=
        ⟨fun _ _ hnot hrivals => hnot hrivals.symm⟩
      have hself : ∀ s ∈ t.routes, ¬ s.Rivals s := fun s _ hs => Pattern.not_rivals_self _ hs.2
      intro s hs other hother
      exact hpairs.forall_of_forall hself hs hother

namespace Router

variable {registry : HandlerRegistry} {installed : List String} {r : Router}
  {history : History RouteEntry}

theorem registerRow_of_error {s : RouteSpec} {fault : RowFault}
    (hrow : RouteTable.resolveRow registry s = .error fault) :
    r.registerRow registry s = (.error fault, r) := by
  unfold registerRow
  rw [hrow]

theorem registerRow_of_ok {s : RouteSpec} {row : RouteTable.ResolvedRow}
    (hrow : RouteTable.resolveRow registry s = .ok row) :
    r.registerRow registry s =
      ((r.registerWith row.method row.path row.middleware [row.handler]).1.mapError .pattern,
        (r.registerWith row.method row.path row.middleware [row.handler]).2) := by
  unfold registerRow
  simp only [hrow]
  rcases r.registerWith row.method row.path row.middleware [row.handler] with ⟨_ | _, _⟩ <;> rfl

theorem mapError_eq_ok_iff {ε ε' α : Type} {result : Except ε α} {f : ε → ε'} {a : α} :
    result.mapError f = .ok a ↔ result = .ok a := by
  cases result <;> simp [Except.mapError]

theorem Follows.registerRow_ok_iff (h : r.Follows history) (s : RouteSpec) :
    (r.registerRow registry s).1 = .ok () ↔
      s.Legible registry ∧ ∀ e ∈ history.routes, ¬ s.RivalOf e := by
  have hresolved := RouteTable.exists_resolveRow_iff registry s
  cases hrow : RouteTable.resolveRow registry s with
  | error fault =>
    rw [registerRow_of_error hrow]
    refine iff_of_false nofun fun ⟨hlegible, _⟩ => ?_
    obtain ⟨row, hok⟩ := hresolved.2 ⟨hlegible.method, hlegible.names⟩
    rw [hrow] at hok
    cases hok
  | ok row =>
    obtain ⟨hmethod, hpath, -, -⟩ := RouteTable.resolveRow_ok_iff.1 hrow
    obtain ⟨htoken, hnames⟩ := hresolved.1 ⟨row, hrow⟩
    have hlegible : s.Legible registry ↔ ∃ parts, Pattern.parse s.path = .ok parts :=
      ⟨fun hs => hs.path, fun hparse => ⟨htoken, hnames, hparse⟩⟩
    rw [registerRow_of_ok hrow, mapError_eq_ok_iff, h.accepts_iff, hlegible, hpath]
    simp only [RouteSpec.RivalOf, ← hmethod, Method.token_injective.eq_iff, not_and]

theorem Follows.registerRow (h : r.Follows history)
    (hinstalled : r.middleware.map some = installed.map registry.get?) {s : RouteSpec}
    (hok : (r.registerRow registry s).1 = .ok ()) :
    ∃ e history', s.Becomes registry installed e ∧
      (r.registerRow registry s).2.Follows history' ∧ history'.routes = history.routes ++ [e] ∧
        (r.registerRow registry s).2.middleware = r.middleware := by
  cases hrow : RouteTable.resolveRow registry s with
  | error fault =>
    rw [registerRow_of_error hrow] at hok
    cases hok
  | ok row =>
    obtain ⟨hmethod, hpath, hmiddleware, hhandler⟩ := RouteTable.resolveRow_ok_iff.1 hrow
    obtain ⟨history', hfollows, hroutes⟩ :=
      h.registerWith row.method row.path row.middleware [row.handler]
    rw [registerRow_of_ok hrow] at hok ⊢
    rw [mapError_eq_ok_iff.1 hok] at hroutes
    refine ⟨_, history', ⟨hmethod, hpath, ?_⟩, hfollows, hroutes,
      RouterSetup.registerWith_middleware _ _ _ _ _⟩
    rw [newEntry, RouteSpec.names, ← List.append_assoc]
    simp only [List.map_append, List.map_singleton, hinstalled, hmiddleware, hhandler]

section

attribute [local irreducible] registerRow

theorem registerRows_cons (index : Nat) (s : RouteSpec) (rest : List RouteSpec) :
    registerRows registry index (s :: rest) r =
      match r.registerRow registry s with
      | (.error fault, r) => (.error (.row index s.method s.path fault), r)
      | (.ok (), r) => registerRows registry (index + 1) rest r := rfl

end

theorem registerRows_cons_of_ok {s : RouteSpec} (index : Nat) (rest : List RouteSpec)
    (hok : (r.registerRow registry s).1 = .ok ()) :
    registerRows registry index (s :: rest) r =
      registerRows registry (index + 1) rest (r.registerRow registry s).2 := by
  rw [registerRows_cons]
  generalize r.registerRow registry s = registered at hok ⊢
  obtain ⟨result, next⟩ := registered
  cases hok
  rfl

theorem registerRow_of_registerRows {s : RouteSpec} {index : Nat} {rest : List RouteSpec}
    (hok : (registerRows registry index (s :: rest) r).1 = .ok ()) :
    (r.registerRow registry s).1 = .ok () := by
  rw [registerRows_cons] at hok
  generalize r.registerRow registry s = registered at hok ⊢
  obtain ⟨result, next⟩ := registered
  cases result with
  | error fault => cases hok
  | ok done => rfl

/-- The rivals of a row may be among the earlier rows and among the routes from before. -/
theorem Follows.registerRows_ok_iff (h : r.Follows history)
    (hinstalled : r.middleware.map some = installed.map registry.get?) (index : Nat)
    (rows : List RouteSpec) : (registerRows registry index rows r).1 = .ok () ↔
      (∀ s ∈ rows, s.Legible registry) ∧
      (∀ s ∈ rows, ∀ e ∈ history.routes, ¬ s.RivalOf e) ∧
      rows.Pairwise fun s other => ¬ s.Rivals other := by
  induction rows generalizing r history index with
  | nil => exact iff_of_true rfl (by simp)
  | cons s rest ih =>
    rw [List.forall_mem_cons, List.forall_mem_cons, List.pairwise_cons]
    by_cases hrow : (r.registerRow registry s).1 = .ok ()
    · obtain ⟨e, history', hbecomes, hfollows, hroutes, hkept⟩ := h.registerRow hinstalled hrow
      rw [← hkept] at hinstalled
      rw [registerRows_cons_of_ok index rest hrow, ih hfollows hinstalled (index + 1)]
      rw [h.registerRow_ok_iff] at hrow
      simp only [hroutes, List.forall_mem_append, List.forall_mem_singleton, hbecomes.rivalOf_iff,
        imp_and, forall_and]
      constructor
      · rintro ⟨hlegible, ⟨hfree, hfirst⟩, hpairs⟩
        exact ⟨⟨hrow.1, hlegible⟩, ⟨hrow.2, hfree⟩, hfirst, hpairs⟩
      · rintro ⟨⟨-, hlegible⟩, ⟨-, hfree⟩, hfirst, hpairs⟩
        exact ⟨hlegible, ⟨hfree, hfirst⟩, hpairs⟩
    · refine iff_of_false (fun hok => hrow (registerRow_of_registerRows hok)) ?_
      rintro ⟨hlegible, hfree, -⟩
      exact hrow ((h.registerRow_ok_iff s).2 ⟨hlegible.1, hfree.1⟩)

theorem Follows.registerRows (h : r.Follows history)
    (hinstalled : r.middleware.map some = installed.map registry.get?) {index : Nat}
    {rows : List RouteSpec} (hok : (registerRows registry index rows r).1 = .ok ()) :
    ∃ (made : List (RouteSpec × RouteEntry)) (history' : History RouteEntry),
      made.map (·.1) = rows ∧ (∀ p ∈ made, p.1.Becomes registry installed p.2) ∧
        (registerRows registry index rows r).2.Follows history' ∧
          history'.routes = history.routes ++ made.map (·.2) := by
  induction rows generalizing r history index with
  | nil => exact ⟨[], history, rfl, fun _ hp => absurd hp List.not_mem_nil, h, by simp⟩
  | cons s rest ih =>
    have hrow := registerRow_of_registerRows hok
    obtain ⟨e, middle, hbecomes, hfollows, hroutes, hkept⟩ := h.registerRow hinstalled hrow
    rw [registerRows_cons_of_ok index rest hrow] at hok ⊢
    rw [← hkept] at hinstalled
    obtain ⟨made, history', hrows, hmade, hlast, hall⟩ := ih hfollows hinstalled hok
    refine ⟨(s, e) :: made, history', by simp [hrows], ?_, hlast, ?_⟩
    · exact List.forall_mem_cons.2 ⟨hbecomes, hmade⟩
    · rw [hall, hroutes, List.map_cons, List.append_assoc, List.singleton_append]

theorem useNames_ok_iff {names : List String} : (useNames registry names r).1 = .ok () ↔
    ∀ name ∈ names, (registry.get? name).isSome = true := by
  induction names generalizing r with
  | nil => simp [useNames]
  | cons name rest ih =>
    rw [useNames, List.forall_mem_cons]
    cases registry.get? name with
    | none => simp
    | some handler => simp [ih]

theorem Follows.useNames (h : r.Follows history) (installed : List String)
    (hinstalled : r.middleware.map some = installed.map registry.get?) {names : List String}
    (hok : (useNames registry names r).1 = .ok ()) :
    (useNames registry names r).2.Follows history ∧
      (useNames registry names r).2.middleware.map some =
        (installed ++ names).map registry.get? := by
  induction names generalizing r installed with
  | nil => exact ⟨h, by rw [List.append_nil]; exact hinstalled⟩
  | cons name rest ih =>
    unfold Router.useNames at hok ⊢
    cases hhandler : registry.get? name with
    | none =>
      rw [hhandler] at hok
      cases hok
    | some handler =>
      rw [hhandler] at hok
      have hnext : (r.use handler).middleware.map some =
          (installed ++ [name]).map registry.get? := by
        rw [Router.use, List.map_append, List.map_append, hinstalled, List.map_singleton,
          List.map_singleton, hhandler]
      have hrest := ih (h.use handler) (installed ++ [name]) hnext hok
      rwa [List.append_assoc, List.singleton_append] at hrest

theorem ofTable_ok_iff {t : RouteTable} : ofTable t registry = .ok r ↔
    (useNames registry t.middleware {}).1 = .ok () ∧
      registerRows registry 0 t.routes (useNames registry t.middleware {}).2 = (.ok (), r) := by
  rw [ofTable, extend]
  rcases useNames registry t.middleware {} with ⟨_ | _, start⟩
  · simp
  · dsimp only
    rcases registerRows registry 0 t.routes start with ⟨_ | _, _⟩ <;> simp

theorem forall₂_listingBy {made : List (RouteSpec × RouteEntry)}
    (h : ∀ p ∈ made, p.1.Becomes registry installed p.2) :
    List.Forall₂ (RouteSpec.Becomes registry installed)
      (listingBy RouteSpec.key (made.map (·.1))) (listingBy RouteEntry.key (made.map (·.2))) := by
  have hinjective : Function.Injective (Prod.map Method.token (id : List String → List String)) :=
    Method.token_injective.prodMap Function.injective_id
  have hkeys : ∀ p ∈ made, (RouteSpec.key ∘ Prod.fst) p =
      (Prod.map Method.token id ∘ (RouteEntry.key ∘ Prod.snd)) p := by
    intro p hp
    obtain ⟨hmethod, hpath, -⟩ := h p hp
    simp [RouteSpec.key, RouteEntry.key, hmethod, hpath]
  rw [listingBy_map, listingBy_map, listingBy_congr hkeys, listingBy_comp hinjective,
    List.forall₂_map_left_iff, List.forall₂_map_right_iff, List.forall₂_same]
  intro p hp
  exact h p (latestBy?_eq_some (mem_listingBy.1 hp)).1

/-- A table can be built exactly if it is sound. The routes are then those of the last row of each
key, in the order of the first. -/
theorem ofTable_builds (t : RouteTable) (registry : HandlerRegistry) :
    ((∃ r, ofTable t registry = .ok r) ↔ t.Sound registry) ∧
      ∀ r, ofTable t registry = .ok r →
        List.Forall₂ (RouteSpec.Becomes registry t.middleware) (listingBy RouteSpec.key t.routes)
          r.entries := by
  have hinstalls : (useNames registry t.middleware {}).1 = .ok () →
      (useNames registry t.middleware {}).2.Follows [] ∧
        (useNames registry t.middleware {}).2.middleware.map some =
          t.middleware.map registry.get? := new_follows.useNames [] rfl
  simp only [ofTable_ok_iff]
  constructor
  · rw [RouteTable.sound_iff, ← useNames_ok_iff (r := {})]
    constructor
    · rintro ⟨r, hnames, hrows⟩
      obtain ⟨hfollows, hinstalled⟩ := hinstalls hnames
      obtain ⟨hlegible, -, hpairs⟩ :=
        (hfollows.registerRows_ok_iff hinstalled 0 t.routes).1 (congrArg Prod.fst hrows)
      exact ⟨hnames, hlegible, hpairs⟩
    · rintro ⟨hnames, hlegible, hpairs⟩
      obtain ⟨hfollows, hinstalled⟩ := hinstalls hnames
      have hrows := (hfollows.registerRows_ok_iff hinstalled 0 t.routes).2
        ⟨hlegible, fun _ _ e he => absurd he List.not_mem_nil, hpairs⟩
      exact ⟨_, hnames, Prod.ext hrows rfl⟩
  · rintro r ⟨hnames, hrows⟩
    obtain ⟨hfollows, hinstalled⟩ := hinstalls hnames
    obtain ⟨made, history, hmade, hbecomes, hbuilt, hroutes⟩ :=
      hfollows.registerRows hinstalled (congrArg Prod.fst hrows)
    rw [hrows] at hbuilt
    rw [hbuilt.entries, hroutes, ← hmade]
    exact forall₂_listingBy hbecomes

example :
    let t : RouteTable := ⟨[], [⟨"get", "/items/:id", "first", []⟩, ⟨"POST", "/items", "add", []⟩,
      ⟨" Get", "/items/:id/", "second", []⟩]⟩
    (ofTable t ⟨[], some .tracing⟩).toOption.map
        (fun r => r.entries.map fun e => (e.method.token, e.pattern)) =
      some [("GET", "/items/:id/"), ("POST", "/items")] := rfl

end Router

end RequestRouting

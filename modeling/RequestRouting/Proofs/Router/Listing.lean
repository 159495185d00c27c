import Mathlib.Algebra.GroupWithZero.Nat
import RequestRouting.Proofs.LatestByKey
import RequestRouting.Proofs.PathTrie.SegmentTree
import RequestRouting.Proofs.Router.Runs

/-!
# The routes of a router

A router holds its routes twice: in a list, and in the tries of their methods. Both follow from the
registrations that it accepted, and so they agree.
-/

set_option autoImplicit false

namespace RequestRouting

namespace RouteEntry

def key (e : RouteEntry) : Method × List String := (e.method, pathParts e.pattern)

def terminal (e : RouteEntry) : Method × Terminal RouteEntry := (e.method, ⟨e.pattern, e⟩)

end RouteEntry

namespace History

def ofMethod (history : History RouteEntry) (method : Method) : History RouteEntry :=
  history.filter fun s => s.value.method == method

def routes (history : History RouteEntry) : List RouteEntry := history.map (·.value)

variable {history : History RouteEntry}

theorem mem_ofMethod {method : Method} {s : Registration RouteEntry} :
    s ∈ history.ofMethod method ↔ s ∈ history ∧ s.value.method = method := by
  rw [ofMethod, List.mem_filter, beq_iff_eq]

theorem routes_append (history : History RouteEntry) (s : Registration RouteEntry) :
    History.routes (history ++ [s]) = history.routes ++ [s.value] := List.map_append

theorem ofMethod_append_self (history : History RouteEntry) (s : Registration RouteEntry) :
    History.ofMethod (history ++ [s]) s.value.method = history.ofMethod s.value.method ++ [s] := by
  simp [ofMethod, List.filter_append]

theorem ofMethod_append_of_ne {s : Registration RouteEntry} {method : Method}
    (h : s.value.method ≠ method) :
    History.ofMethod (history ++ [s]) method = history.ofMethod method := by
  simp [ofMethod, List.filter_append, h]

theorem latest?_ofMethod (hpatterns : ∀ s ∈ history, s.value.pattern = s.pattern)
    (method : Method) (raws : List String) :
    ((history.ofMethod method).latest? raws).map (·.value) =
      latestBy? RouteEntry.key history.routes (method, raws) := by
  have hkeys : ∀ s ∈ history,
      (s.raws == raws && s.value.method == method) = (s.value.key == (method, raws)) := by
    intro s hs
    have hparts : s.raws = pathParts s.value.pattern := by rw [hpatterns s hs, s.raws_eq]
    rw [Bool.eq_iff_iff, Bool.and_eq_true, beq_iff_eq, beq_iff_eq, beq_iff_eq, hparts,
      RouteEntry.key, Prod.mk.injEq]
    exact and_comm
  rw [latest?, ofMethod, List.filter_filter, List.filter_congr hkeys, latestBy?, routes,
    List.filter_map, List.getLast?_map]
  rfl

end History

namespace Router

theorem lookup_putTrie (method m : Method) (t : PathTrie RouteEntry)
    (tries : List (Method × PathTrie RouteEntry)) :
    (putTrie method t tries).lookup m = if m = method then some t else tries.lookup m := by
  induction tries with
  | nil => exact lookup_cons_eq method m t []
  | cons first rest ih =>
    obtain ⟨other, old⟩ := first
    rw [putTrie]
    split
    · rename_i hsame
      rw [lookup_cons_eq, lookup_cons_eq, hsame]
      split <;> rfl
    · rename_i hne
      rw [lookup_cons_eq, lookup_cons_eq, ih]
      by_cases hm : m = other
      · rw [if_pos hm, if_pos hm, if_neg fun heq => hne (hm.symm.trans heq)]
      · rw [if_neg hm, if_neg hm]

theorem listEntry_listing {log : List RouteEntry} (hserials : (log.map (·.serial)).Nodup)
    (e : RouteEntry) :
    listEntry (listingBy RouteEntry.key log) (latestBy? RouteEntry.key log e.key) e =
      listingBy RouteEntry.key (log ++ [e]) := by
  cases hlatest : latestBy? RouteEntry.key log e.key with
  | none => exact (listingBy_append_of_new hlatest).symm
  | some old =>
    obtain ⟨hold, hkey⟩ := latestBy?_eq_some hlatest
    rw [listingBy_append_of_old hlatest]
    refine List.map_congr_left fun x hx => ?_
    have hx := mem_listingBy.1 hx
    have hsame : x.serial = old.serial ↔ x.key = e.key := by
      constructor
      · intro hserial
        rw [List.inj_on_of_nodup_map hserials (latestBy?_eq_some hx).1 hold hserial, hkey]
      · intro hkey
        rw [hkey, hlatest] at hx
        rw [Option.some.inj hx]
    simp [hsame]

/-- A router that has its routes from the registrations of the history. -/
structure Follows (r : Router) (history : History RouteEntry) : Prop where
  keyed : r.Keyed
  patterns : ∀ s ∈ history, s.value.pattern = s.pattern
  tries : ∀ method, (r.trie method).Embodies (history.ofMethod method)
  entries : r.entries = listingBy RouteEntry.key history.routes
  serials : (history.routes.map (·.serial)).Nodup
  serial_lt : ∀ e ∈ history.routes, e.serial < r.nextSerial

theorem new_follows : ({} : Router).Follows [] where
  keyed := new_keyed
  patterns _ hs := absurd hs List.not_mem_nil
  tries _ := PathTrie.empty_embodies
  entries := rfl
  serials := List.nodup_nil
  serial_lt _ he := absurd he List.not_mem_nil

variable {r : Router} {history : History RouteEntry}

theorem Follows.configure (h : r.Follows history) (config : RuntimeConfig) :
    (r.configure config).Follows history :=
  ⟨h.keyed, h.patterns, h.tries, h.entries, h.serials, h.serial_lt⟩

theorem Follows.use (h : r.Follows history) (middleware : Handler) :
    (r.use middleware).Follows history :=
  ⟨h.keyed, h.patterns, h.tries, h.entries, h.serials, h.serial_lt⟩

theorem Follows.stored (h : r.Follows history) {s : Registration RouteEntry}
    (hpattern : s.value.pattern = s.pattern) :
    ((r.trie s.value.method).stored? s.parts).map (·.value) =
      latestBy? RouteEntry.key history.routes s.value.key := by
  have hkey : (s.value.method, s.raws) = s.value.key := by
    rw [RouteEntry.key, hpattern, s.raws_eq]
  rw [PathTrie.stored?_eq (h.tries _).represents, Option.map_map, ← hkey]
  exact History.latest?_ofMethod h.patterns _ _

theorem Follows.add (h : r.Follows history) {s : Registration RouteEntry}
    (hpattern : s.value.pattern = s.pattern) (hserial : s.value.serial = r.nextSerial)
    (hclash : (r.trie s.value.method).root.clash? s.parts = none) :
    Follows { r with
      tries := putTrie s.value.method ((r.trie s.value.method).add s) r.tries
      entries := listEntry r.entries (((r.trie s.value.method).stored? s.parts).map (·.value))
        s.value
      nextSerial := r.nextSerial + 1 } (history ++ [s]) where
  keyed := putTrie_nodup h.keyed _ _
  patterns s' hs' := by
    rcases List.mem_append.1 hs' with hs' | hs'
    · exact h.patterns s' hs'
    · rw [List.mem_singleton.1 hs', hpattern]
  tries method := by
    rw [trie, lookup_putTrie]
    split
    · rename_i hsame
      rw [hsame, History.ofMethod_append_self]
      exact (h.tries _).add hclash
    · rename_i hne
      rw [History.ofMethod_append_of_ne (Ne.symm hne)]
      exact h.tries method
  entries := by
    rw [h.stored hpattern, h.entries, listEntry_listing h.serials, History.routes_append]
  serials := by
    rw [History.routes_append, List.map_append, List.map_singleton, List.nodup_append]
    refine ⟨h.serials, List.nodup_singleton _, ?_⟩
    intro serial hold new hnew
    obtain ⟨e, he, rfl⟩ := List.mem_map.1 hold
    have hlt := h.serial_lt e he
    rw [List.mem_singleton.1 hnew, hserial]
    exact Nat.ne_of_lt hlt
  serial_lt e he := by
    rw [History.routes_append] at he
    rcases List.mem_append.1 he with he | he
    · exact Nat.lt_succ_of_lt (h.serial_lt e he)
    · rw [List.mem_singleton.1 he, hserial]
      exact Nat.lt_succ_self _

/-- A pattern that is refused leaves at most an empty trie behind. -/
theorem Follows.refuse (h : r.Follows history) (method : Method) :
    Follows { r with tries := putTrie method (r.trie method) r.tries } history where
  keyed := putTrie_nodup h.keyed _ _
  patterns := h.patterns
  tries m := by
    rw [trie, lookup_putTrie]
    split
    · rename_i hsame
      exact hsame ▸ h.tries method
    · exact h.tries m
  entries := h.entries
  serials := h.serials
  serial_lt := h.serial_lt

def record (log : List RouteEntry) (entry : RouteEntry) :
    Except PatternError Unit → List RouteEntry
  | .ok () => log ++ [entry]
  | .error _ => log

theorem Follows.registerWith (h : r.Follows history) (method : Method) (pattern : String)
    (middleware handlers : List Handler) :
    ∃ history', (r.registerWith method pattern middleware handlers).2.Follows history' ∧
      history'.routes = record history.routes (r.newEntry method pattern middleware handlers)
        (r.registerWith method pattern middleware handlers).1 := by
  rcases PathTrie.insert_cases (r.trie method) pattern
    (r.newEntry method pattern middleware handlers) with
    ⟨error, hinsert, -⟩ | ⟨s, hpattern, hvalue, hclash, -, hinsert⟩
  · rw [Router.registerWith, hinsert]
    exact ⟨history, h.refuse method, rfl⟩
  · have hmethod : s.value.method = method := congrArg RouteEntry.method hvalue
    have hroute : s.value.pattern = s.pattern := (congrArg RouteEntry.pattern hvalue).trans
      hpattern.symm
    have hadd := h.add hroute (congrArg RouteEntry.serial hvalue) (by rw [hmethod]; exact hclash)
    rw [hmethod, hvalue] at hadd
    rw [Router.registerWith, hinsert]
    refine ⟨history ++ [s], hadd, ?_⟩
    rw [History.routes_append, hvalue]
    rfl

theorem Follows.mem_entries_iff (h : r.Follows history) {e : RouteEntry} :
    e ∈ r.entries ↔ latestBy? RouteEntry.key history.routes e.key = some e := by
  rw [h.entries]
  exact mem_listingBy

theorem Follows.entries_serials (h : r.Follows history) : (r.entries.map (·.serial)).Nodup := by
  have hnodup : r.entries.Nodup := by
    rw [h.entries]
    exact List.Nodup.of_map _ (listingBy_keys_nodup _ _)
  refine hnodup.map_on fun e he e' he' hserial => ?_
  exact List.inj_on_of_nodup_map h.serials (latestBy?_eq_some (h.mem_entries_iff.1 he)).1
    (latestBy?_eq_some (h.mem_entries_iff.1 he')).1 hserial

theorem Follows.value_mem_entries (h : r.Follows history) {method : Method}
    {s : Registration RouteEntry} (hs : (history.ofMethod method).latest? s.raws = some s) :
    s.value ∈ r.entries := by
  have hlatest := History.latest?_ofMethod h.patterns method s.raws
  obtain ⟨hmem, rfl⟩ := History.mem_ofMethod.1 (History.latest?_eq_some hs).1
  rw [hs, Option.map_some] at hlatest
  rw [h.mem_entries_iff, RouteEntry.key, h.patterns s hmem, ← s.raws_eq]
  exact hlatest.symm

theorem Follows.mem_terminals_iff (h : r.Follows history) {method : Method}
    {x : Terminal RouteEntry} : x ∈ (r.trie method).terminals ↔
      ∃ e ∈ r.entries, e.method = method ∧ (⟨e.pattern, e⟩ : Terminal RouteEntry) = x := by
  rw [PathTrie.mem_terminals_iff (h.tries method).represents]
  constructor
  · rintro ⟨s, hs, rfl⟩
    obtain ⟨hmem, hmethod⟩ := History.mem_ofMethod.1 (History.latest?_eq_some hs).1
    refine ⟨s.value, h.value_mem_entries hs, hmethod, ?_⟩
    rw [h.patterns s hmem]
    rfl
  · rintro ⟨e, he, rfl, rfl⟩
    have hlatest := h.mem_entries_iff.1 he
    rw [RouteEntry.key, ← History.latest?_ofMethod h.patterns, Option.map_eq_some_iff] at hlatest
    obtain ⟨s, hs, rfl⟩ := hlatest
    obtain ⟨hmem, hraws⟩ := History.latest?_eq_some hs
    have hpattern := h.patterns s (History.mem_ofMethod.1 hmem).1
    refine ⟨s, hraws ▸ hs, ?_⟩
    rw [hpattern]
    rfl

theorem trie_cases (r : Router) (method : Method) :
    r.trie method = .empty ∨ (method, r.trie method) ∈ r.tries := by
  rw [trie]
  cases hlookup : r.tries.lookup method with
  | none => exact .inl rfl
  | some t =>
    obtain ⟨before, after, hsplit, _⟩ := List.lookup_eq_some_iff.1 hlookup
    exact .inr (by simp [hsplit])

def terminals (r : Router) : List (Method × Terminal RouteEntry) :=
  r.tries.flatMap fun (method, t) => t.terminals.map fun x => (method, x)

theorem Keyed.mem_terminals_iff (h : r.Keyed) {method : Method} {x : Terminal RouteEntry} :
    (method, x) ∈ r.terminals ↔ x ∈ (r.trie method).terminals := by
  rw [terminals, List.mem_flatMap]
  constructor
  · rintro ⟨⟨m, t⟩, hmem, hx⟩
    obtain ⟨x', hx', heq⟩ := List.mem_map.1 hx
    obtain ⟨rfl, rfl⟩ := Prod.mk.inj heq
    rw [h.trie_eq hmem]
    exact hx'
  · intro hx
    rcases r.trie_cases method with hempty | hmem
    · rw [hempty] at hx
      exact absurd hx (by simp [PathTrie.terminals, PathTrie.empty, PathNode.terminals_eq])
    · exact ⟨_, hmem, List.mem_map_of_mem hx⟩

theorem Follows.terminals_nodup (h : r.Follows history) : r.terminals.Nodup := by
  refine List.nodup_flatMap.2 ⟨?_, ?_⟩
  · rintro ⟨method, t⟩ hmem
    have hkeys := PathTrie.keys_nodup (h.tries method).represents
    rw [h.keyed.trie_eq hmem] at hkeys
    exact (List.Nodup.of_map _ hkeys).map fun x y heq => (Prod.mk.inj heq).2
  · refine (List.pairwise_map.1 h.keyed).imp ?_
    intro p p' hne x hx hx'
    obtain ⟨_, _, rfl⟩ := List.mem_map.1 hx
    obtain ⟨_, _, heq⟩ := List.mem_map.1 hx'
    exact hne (Prod.mk.inj heq).1.symm

theorem Follows.terminals_perm (h : r.Follows history) :
    r.terminals.Perm (r.entries.map RouteEntry.terminal) := by
  have hentries : (r.entries.map RouteEntry.terminal).Nodup :=
    (List.Nodup.of_map _ h.entries_serials).map fun e e' heq =>
      congrArg (fun p => p.2.value) heq
  refine (List.perm_ext_iff_of_nodup h.terminals_nodup hentries).2 ?_
  rintro ⟨method, x⟩
  rw [h.keyed.mem_terminals_iff, h.mem_terminals_iff, List.mem_map]
  simp only [RouteEntry.terminal, Prod.mk.injEq]

theorem Follows.length_entries (h : r.Follows history) :
    r.entries.length = (r.tries.map fun p => p.2.size).sum := by
  have hsizes : r.tries.map (fun p => (p.2.terminals.map fun x => (p.1, x)).length) =
      r.tries.map fun p => p.2.size := by
    refine List.map_congr_left ?_
    rintro ⟨method, t⟩ hmem
    have hcounted := (h.tries method).counted
    rw [h.keyed.trie_eq hmem] at hcounted
    rw [List.length_map, hcounted]
  rw [← hsizes, ← List.length_flatMap, ← List.length_map RouteEntry.terminal]
  exact h.terminals_perm.symm.length_eq

theorem Follows.find?_replaced (h : r.Follows history) {method : Method} {pattern : String}
    {entry old : RouteEntry}
    (hinsert : ((r.trie method).insert pattern entry).1 = .ok (some old)) :
    r.entries.find? (fun e => e.serial == old.serial) = some old := by
  refine find?_eq_some_of_nodup RouteEntry.serial h.entries_serials ?_
  rcases PathTrie.insert_cases (r.trie method) pattern entry with
    ⟨error, hrefused, -⟩ | ⟨s, -, -, -, -, haccepted⟩
  · rw [hrefused] at hinsert
    cases hinsert
  · rw [haccepted, PathTrie.stored?_eq (h.tries method).represents] at hinsert
    have hold := Except.ok.inj hinsert
    rw [Option.map_map, Option.map_eq_some_iff] at hold
    obtain ⟨s', hlatest, rfl⟩ := hold
    exact h.value_mem_entries ((History.latest?_eq_some hlatest).2.symm ▸ hlatest)

theorem Follows.search_mem (h : r.Follows history) {method : Method} {path : String}
    {route : RouteMatch} (hroute : r.search method path = some route) :
    route.entry ∈ r.entries := by
  rw [search, Option.map_eq_some_iff] at hroute
  obtain ⟨found, hfound, rfl⟩ := hroute
  rcases PathTrie.search_cases (h.tries method).represents path with
    ⟨hnone, -⟩ | ⟨s, -, n, -, -, hholds, hsome, -⟩
  · rw [hnone] at hfound
    cases hfound
  · rw [hsome] at hfound
    rw [← Option.some.inj hfound]
    exact h.value_mem_entries hholds.latest

theorem search_of_resolve {method : Method} {path : String} {route : RouteMatch}
    (hroute : r.resolve method path = .found route) :
    r.search method path = some route ∨ r.search .get path = some route := by
  unfold resolve at hroute
  dsimp only at hroute
  split at hroute
  · rename_i found heq
    obtain rfl := RouteLookup.found.inj hroute
    rw [Option.orElse_eq_orElse, Option.orElse_eq_or, Option.or_eq_some_iff] at heq
    rcases heq with hown | ⟨-, hget⟩
    · exact .inl hown
    · split at hget
      · exact .inr hget
      · cases hget
  · split at hroute <;> cases hroute

theorem Follows.resolve_mem (h : r.Follows history) {method : Method} {path : String}
    {route : RouteMatch} (hroute : r.resolve method path = .found route) :
    route.entry ∈ r.entries := by
  rcases search_of_resolve hroute with hown | hget
  · exact h.search_mem hown
  · exact h.search_mem hget

theorem Follows.params_nodup (h : r.Follows history) {method : Method} {path : String}
    {route : RouteMatch} (hroute : r.resolve method path = .found route) :
    (route.params.pairs.map (·.1)).Nodup := by
  have hsearch : ∀ m, r.search m path = some route → (route.params.pairs.map (·.1)).Nodup := by
    intro m hfound
    rw [search, Option.map_eq_some_iff] at hfound
    obtain ⟨found, hfound, rfl⟩ := hfound
    rcases PathTrie.search_cases (h.tries m).represents path with
      ⟨hnone, -⟩ | ⟨s, -, n, -, -, -, hsome, -⟩
    · rw [hnone] at hfound
      cases hfound
    · rw [hsome] at hfound
      cases hfound
      exact s.params_nodup _
  exact (search_of_resolve hroute).elim (hsearch method) (hsearch .get)

end Router

end RequestRouting

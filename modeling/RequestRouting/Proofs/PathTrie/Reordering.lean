import RequestRouting.Proofs.PathTrie.Acceptance
import RequestRouting.Proofs.PathTrie.Refinement

/-!
# Insertions in another order

Patterns with pairwise different parts are accepted in every order or in none. The tries that two
orders give count, store and list the same, and differ only on paths that several patterns match.
-/

set_option autoImplicit false

namespace RequestRouting

namespace History

variable {α : Type} {log other : History α}

theorem latest?_eq_some_iff (hnodup : (log.map Registration.raws).Nodup) {raws : List String}
    {r : Registration α} : log.latest? raws = some r ↔ r ∈ log ∧ r.raws = raws := by
  constructor
  · exact latest?_eq_some
  · rintro ⟨hr, rfl⟩
    obtain ⟨s, hs⟩ := Option.isSome_iff_exists.1 (latest?_isSome_iff.2 ⟨r, hr, rfl⟩)
    obtain ⟨hmem, hraws⟩ := latest?_eq_some hs
    rw [hs, List.inj_on_of_nodup_map hnodup hmem hr hraws]

theorem latest?_perm (hnodup : (log.map Registration.raws).Nodup) (hperm : log.Perm other)
    (raws : List String) : log.latest? raws = other.latest? raws := by
  have hnodup' : (other.map Registration.raws).Nodup := (hperm.map _).nodup_iff.1 hnodup
  apply Option.ext
  intro r
  rw [latest?_eq_some_iff hnodup, latest?_eq_some_iff hnodup', hperm.mem_iff]

theorem leads_perm (hperm : log.Perm other) : log.leads.Perm other.leads := by
  apply (List.perm_ext_iff_of_nodup (eraseDups_nodup _) (eraseDups_nodup _)).2
  intro lead
  change lead ∈ log.leads ↔ lead ∈ other.leads
  simp only [mem_leads, introduced_lt_iff, hperm.mem_iff]

theorem keys_perm (hperm : log.Perm other) :
    (log.map Registration.raws).eraseDups.Perm (other.map Registration.raws).eraseDups := by
  apply (List.perm_ext_iff_of_nodup (eraseDups_nodup _) (eraseDups_nodup _)).2
  intro raws
  rw [List.mem_eraseDups, List.mem_eraseDups, (hperm.map _).mem_iff]

theorem listing_perm (hnodup : (log.map Registration.raws).Nodup) :
    (listingBy Registration.raws log).Perm log := by
  apply (List.perm_ext_iff_of_nodup (List.Nodup.of_map _ (listingBy_keys_nodup _ _))
    (List.Nodup.of_map _ hnodup)).2
  intro r
  rw [mem_listingBy]
  exact (latest?_eq_some_iff hnodup).trans (and_iff_left rfl)

end History

namespace PathTrie

variable {α : Type} {log log' : History α} {t other : PathTrie α}

theorem search_isSome_iff (h : t.root.Represents log []) (path : String) :
    (t.search path).isSome = true ↔ ∃ r ∈ log, r.covers (pathParts path) = true := by
  rcases search_wins h path with ⟨hnone, hmiss⟩ | ⟨r, m, hwins, -, hsome⟩
  · refine iff_of_false (by simp [hnone]) ?_
    rintro ⟨r, hr, hcovers⟩
    rw [hmiss r hr] at hcovers
    cases hcovers
  · exact iff_of_true (by simp [hsome]) ⟨r, hwins.mem, hwins.covers⟩

theorem search_of_only (h : t.root.Represents log []) {path : String} {r : Registration α}
    (hr : r ∈ log) (hcovers : r.covers (pathParts path) = true)
    (honly : ∀ s ∈ log, s.covers (pathParts path) = true → s = r) :
    ∃ node, t.search path = some ⟨node, r.pattern, r.value, r.params (pathParts path)⟩ := by
  rcases search_wins h path with ⟨-, hmiss⟩ | ⟨s, m, hwins, -, hsome⟩
  · rw [hmiss r hr] at hcovers
    cases hcovers
  · have hsame := honly s hwins.mem hwins.covers
    subst hsame
    exact ⟨m.id, hsome⟩

/-- The tries differ only in the numbers of their nodes and in the order of their patterns, and so
in what they find where several of the calls match. -/
structure AgreesUpToOrder (t other : PathTrie α) (calls : List (String × α)) : Prop where
  size : t.size = other.size
  nodeCount : t.nodeCount = other.nodeCount
  get : ∀ pattern, t.get? pattern = other.get? pattern
  patterns : t.patterns.Perm other.patterns
  hits : ∀ path, (t.search path).isSome = true ↔ (other.search path).isSome = true
  unambiguous : ∀ path, ∀ c ∈ calls, Pattern.Matches c.1 path →
    (∀ d ∈ calls, Pattern.Matches d.1 path → d = c) →
      ∃ node node' params, t.search path = some ⟨node, c.1, c.2, params⟩ ∧
        other.search path = some ⟨node', c.1, c.2, params⟩

theorem Refines.patterns_perm (h : t.Refines log) (hnodup : (log.map Registration.raws).Nodup) :
    t.patterns.Perm (log.map (·.pattern)) :=
  h.patterns.trans ((History.listing_perm hnodup).map _)

theorem agreesUpToOrder_of_perm (ht : t.root.Represents log [])
    (hother : other.root.Represents log' []) (hrefines : t.Refines log)
    (hrefines' : other.Refines log') (hnodup : (log.map Registration.raws).Nodup)
    (hperm : log.Perm log') :
    t.AgreesUpToOrder other (log.map fun r => (r.pattern, r.value)) where
  size := by
    rw [hrefines.size, hrefines'.size]
    exact (History.keys_perm hperm).length_eq
  nodeCount := by
    rw [hrefines.nodeCount, hrefines'.nodeCount, (History.leads_perm hperm).length_eq]
  get pattern := by
    cases hparse : Pattern.parse pattern with
    | error e => rw [hrefines.get_unread pattern e hparse, hrefines'.get_unread pattern e hparse]
    | ok parts =>
      rw [hrefines.get pattern parts hparse, hrefines'.get pattern parts hparse,
        History.latest?_perm hnodup hperm]
  patterns := by
    have hnodup' : (log'.map Registration.raws).Nodup := (hperm.map _).nodup_iff.1 hnodup
    exact (hrefines.patterns_perm hnodup).trans
      ((hperm.map _).trans (hrefines'.patterns_perm hnodup').symm)
  hits path := by
    rw [search_isSome_iff ht, search_isSome_iff hother]
    simp only [hperm.mem_iff]
  unambiguous path c hc hmatches honly := by
    obtain ⟨r, hr, rfl⟩ := List.mem_map.1 hc
    have hcovers := r.matches_iff.1 hmatches
    have hrest : ∀ s ∈ log, s.covers (pathParts path) = true → s = r := by
      intro s hs hscovers
      have hsame := honly _ (List.mem_map_of_mem hs) (s.matches_iff.2 hscovers)
      apply List.inj_on_of_nodup_map hnodup hs hr
      rw [s.raws_eq, r.raws_eq, (Prod.mk.inj hsame).1]
    obtain ⟨node, hfound⟩ := search_of_only ht hr hcovers hrest
    obtain ⟨node', hfound'⟩ := search_of_only hother (hperm.mem_iff.1 hr) hcovers
      fun s hs => hrest s (hperm.mem_iff.2 hs)
    exact ⟨node, node', _, hfound, hfound'⟩

theorem accepts_perm {calls others : List (String × α)} (hperm : calls.Perm others) :
    (empty : PathTrie α).Accepts calls ↔ (empty : PathTrie α).Accepts others := by
  have hpairs := hperm.pairwise_iff
    (R := fun c d : String × α => ¬ Pattern.Rivals (pathParts c.1) (pathParts d.1))
    fun hcd hdc => hcd hdc.symm
  rw [empty_embodies.accepts_iff, empty_embodies.accepts_iff, hpairs]
  simp only [hperm.mem_iff]

theorem accepted_perm {calls others : List (String × α)} (hperm : calls.Perm others)
    (hcalls : (empty : PathTrie α).Accepts calls) :
    ((empty : PathTrie α).accepted calls).Perm ((empty : PathTrie α).accepted others) := by
  have hinjective : Function.Injective fun r : Registration α => (r.pattern, r.value) := by
    intro r s hsame
    obtain ⟨hpattern, hvalue⟩ := Prod.mk.inj hsame
    have hparts : r.parts = s.parts := Registration.parts_eq (by
      rw [r.raws_eq, s.raws_eq, hpattern])
    cases r
    cases s
    simp_all
  rw [← List.map_perm_map_iff hinjective, accepted_of_accepts hcalls,
    accepted_of_accepts ((accepts_perm hperm).1 hcalls)]
  exact hperm

/-- Whatever the order of insertions with different parts, all of them are accepted in one order
just if they are in the other, and the two tries then agree wherever no path is ambiguous. -/
theorem insertAll_reordered (calls others : List (String × α))
    (hdistinct : (calls.map fun c => pathParts c.1).Nodup) (hperm : calls.Perm others) :
    ((empty : PathTrie α).Accepts calls ↔ (empty : PathTrie α).Accepts others) ∧
      ((empty : PathTrie α).Accepts calls →
        ((empty : PathTrie α).insertAll calls).AgreesUpToOrder (empty.insertAll others) calls) := by
  refine ⟨accepts_perm hperm, fun hcalls => ?_⟩
  have haccepted := accepted_of_accepts hcalls
  have hnodup : (((empty : PathTrie α).accepted calls).map Registration.raws).Nodup := by
    rw [← haccepted, List.map_map] at hdistinct
    refine (congrArg List.Nodup (List.map_congr_left fun r _ => ?_)).mp hdistinct
    exact r.raws_eq.symm
  have hagrees := agreesUpToOrder_of_perm (represents_run calls) (represents_run others)
    (refines_run calls) (refines_run others) hnodup (accepted_perm hperm hcalls)
  rwa [haccepted] at hagrees

theorem insertAll_reordered_of_parameter :
    let calls := [("/users/:id", 1), ("/users/new", 2), ("/files/*rest", 3)]
    let others := [("/files/*rest", 3), ("/users/new", 2), ("/users/:id", 1)]
    let t := (empty : PathTrie Nat).insertAll calls
    let other := (empty : PathTrie Nat).insertAll others
    (empty : PathTrie Nat).Accepts calls ∧ t.AgreesUpToOrder other calls ∧
      (t.search "/users/new").map (·.value) = some 1 ∧
      (other.search "/users/new").map (·.value) = some 2 := by
  intro calls others t other
  have hparts : (calls.map fun c => pathParts c.1) =
      [["users", ":id"], ["users", "new"], ["files", "*rest"]] := rfl
  have hdistinct : (calls.map fun c => pathParts c.1).Nodup := by
    rw [hparts]
    decide
  have hperm : calls.Perm others := (List.reverse_perm calls).symm
  have hcalls : (empty : PathTrie Nat).Accepts calls := by
    simp only [calls, Accepts, and_true]
    refine ⟨⟨none, ?_⟩, ⟨none, ?_⟩, ⟨none, ?_⟩⟩ <;> rfl
  have hagrees := (insertAll_reordered calls others hdistinct hperm).2 hcalls
  have hfirst : (((empty : PathTrie Nat).insertAll
      [("/users/:id", 1), ("/users/new", 2), ("/files/*rest", 3)]).search "/users/new").map
        (·.value) = some 1 := rfl
  have hsecond : (((empty : PathTrie Nat).insertAll
      [("/files/*rest", 3), ("/users/new", 2), ("/users/:id", 1)]).search "/users/new").map
        (·.value) = some 2 := rfl
  exact ⟨hcalls, hagrees, hfirst, hsecond⟩

end PathTrie

end RequestRouting

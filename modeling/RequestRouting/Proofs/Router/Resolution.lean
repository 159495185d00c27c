import RequestRouting.Proofs.PathTrie.Search
import RequestRouting.Proofs.Router.Runs

/-!
# What lookups answer

The list of allowed methods and the lookup itself are two ways to ask which methods a path answers
to; they agree on every router.
-/

set_option autoImplicit false

namespace RequestRouting

namespace AllowedMethods

theorem mem_withImplied {implicitHead : Bool} {methods : List Method} {x : Method} :
    x ∈ withImplied implicitHead methods ↔
      x ∈ methods ∨ (x = .head ∧ implicitHead = true ∧ .get ∈ methods) := by
  rw [withImplied]
  split
  · rename_i h
    have himplied : (implicitHead = true ∧ Method.get ∈ methods) ∧ Method.head ∉ methods := by
      simpa using h
    rw [List.mem_append, List.mem_singleton]
    tauto
  · rename_i h
    have hlisted : implicitHead = true → Method.get ∈ methods → Method.head ∈ methods := by
      simpa using h
    constructor
    · exact .inl
    · rintro (hx | ⟨rfl, hflag, hget⟩)
      · exact hx
      · exact hlisted hflag hget

theorem mem_dropRepeats {x : Method} : ∀ {methods : List Method},
    x ∈ dropRepeats methods ↔ x ∈ methods
  | [] => Iff.rfl
  | [_] => Iff.rfl
  | m :: n :: rest => by
    have ih : x ∈ dropRepeats (n :: rest) ↔ x ∈ n :: rest := mem_dropRepeats
    rw [dropRepeats]
    split
    · rename_i heq
      rw [ih, heq]
      simp
    · rw [List.mem_cons, ih, ← List.mem_cons]

theorem mem_ofMethods {implicitHead : Bool} {methods : List Method} {x : Method} :
    x ∈ (ofMethods implicitHead methods).methods ↔
      x ∈ methods ∨ (x = .head ∧ implicitHead = true ∧ .get ∈ methods) := by
  rw [ofMethods, mem_dropRepeats, List.mem_mergeSort, mem_withImplied]

end AllowedMethods

namespace Router

def Serves (r : Router) (method : Method) (path : String) : Prop :=
  ((r.trie method).search path).isSome = true

def Answers (r : Router) (method : Method) (path : String) : Prop :=
  ∃ route, r.resolve method path = .found route

theorem search_empty (path : String) :
    (PathTrie.empty : PathTrie RouteEntry).search path = none := by
  rw [PathTrie.search_eq]
  cases pathParts path <;> rfl

theorem search_isSome_iff {r : Router} {method : Method} {path : String} :
    (r.search method path).isSome = true ↔ r.Serves method path := by
  rw [search, Option.isSome_map]
  rfl

theorem resolve_cases (r : Router) (method : Method) (path : String) :
    (r.Answers method path ∧
      (r.Serves method path ∨ (method = .head ∧ r.headFallback = true ∧ r.Serves .get path))) ∨
    (¬ r.Serves method path ∧ ¬ (method = .head ∧ r.headFallback = true ∧ r.Serves .get path) ∧
      r.resolve method path = if (r.otherMethods method path).isEmpty then .notFound
        else .methodNotAllowed (.ofMethods r.headFallback (r.otherMethods method path))) := by
  rw [← search_isSome_iff, ← search_isSome_iff]
  cases hown : r.search method path with
  | some route => exact .inl ⟨⟨route, by simp [resolve, hown]⟩, .inl rfl⟩
  | none =>
    by_cases hfallback : r.headFallback = true ∧ method = .head
    · obtain ⟨hflag, rfl⟩ := hfallback
      cases hget : r.search .get path with
      | some route =>
        exact .inl ⟨⟨route, by simp [resolve, hown, hflag, hget]⟩, .inr ⟨rfl, hflag, rfl⟩⟩
      | none => exact .inr ⟨by simp, by simp, by simp [resolve, hown, hflag, hget]⟩
    · have hflag : (r.headFallback && method == .head) = false := by
        rw [← Bool.not_eq_true, Bool.and_eq_true, beq_iff_eq]
        exact hfallback
      exact .inr ⟨by simp, fun h => hfallback ⟨h.2.1, h.1⟩, by simp [resolve, hown, hflag]⟩

theorem answers_iff {r : Router} {method : Method} {path : String} : r.Answers method path ↔
    r.Serves method path ∨ (method = .head ∧ r.headFallback = true ∧ r.Serves .get path) := by
  rcases resolve_cases r method path with ⟨hanswers, hserves⟩ | ⟨hown, hget, hresolve⟩
  · exact ⟨fun _ => hserves, fun _ => hanswers⟩
  · constructor
    · rintro ⟨route, hroute⟩
      rw [hresolve] at hroute
      split at hroute <;> cases hroute
    · rintro (h | h)
      · exact absurd h hown
      · exact absurd h hget

theorem Keyed.mem_otherMethods {r : Router} (h : r.Keyed) {method m : Method} {path : String} :
    m ∈ r.otherMethods method path ↔ m ≠ method ∧ r.Serves m path := by
  unfold otherMethods Serves
  constructor
  · intro hm
    obtain ⟨⟨m', t⟩, hmem, rfl⟩ := List.mem_map.1 hm
    obtain ⟨htries, hserves⟩ := List.mem_filter.1 hmem
    rw [h.trie_eq htries]
    simpa using hserves
  · rintro ⟨hne, hserves⟩
    cases hlookup : r.tries.lookup m with
    | none =>
      rw [trie, hlookup, Option.getD_none, search_empty] at hserves
      cases hserves
    | some t =>
      rw [trie, hlookup, Option.getD_some] at hserves
      obtain ⟨before, after, hsplit, _⟩ := List.lookup_eq_some_iff.1 hlookup
      refine List.mem_map.2 ⟨(m, t), List.mem_filter.2 ⟨by simp [hsplit], ?_⟩, rfl⟩
      simpa [hne] using hserves

/-- Of a path that the method itself is not served on, the allowed methods are those answered. A
method that is listed is therefore never the one asked for, and no `GET` that implies `HEAD` is. -/
theorem Keyed.mem_allowed_iff {r : Router} (h : r.Keyed) {method : Method} {path : String}
    (hown : ¬ r.Serves method path) (m : Method) :
    m ∈ (AllowedMethods.ofMethods r.headFallback (r.otherMethods method path)).methods ↔
      r.Answers m path := by
  have hother : ∀ m', r.Serves m' path → m' ≠ method := by
    rintro m' hserves rfl
    exact hown hserves
  rw [AllowedMethods.mem_ofMethods, answers_iff, h.mem_otherMethods, h.mem_otherMethods]
  constructor
  · rintro (⟨_, hserves⟩ | ⟨hhead, hflag, _, hserves⟩)
    · exact .inl hserves
    · exact .inr ⟨hhead, hflag, hserves⟩
  · rintro (hserves | ⟨hhead, hflag, hserves⟩)
    · exact .inl ⟨hother m hserves, hserves⟩
    · exact .inr ⟨hhead, hflag, hother .get hserves, hserves⟩

/-- After any run, what a lookup tells of other methods is what lookups of these methods find: the
allowed methods are exactly those that are answered, and nothing is found exactly if no method is.
A method is answered by its own trie, or `HEAD` by that of `GET` if the router falls back. -/
theorem resolve_agrees (steps : List RouterStep) (method : Method) (path : String) :
    let r := ({} : Router).run steps
    (∀ allowed, r.resolve method path = .methodNotAllowed allowed →
      ∀ m, m ∈ allowed.methods ↔ r.Answers m path) ∧
    (r.resolve method path = .notFound ↔ ∀ m, ¬ r.Answers m path) ∧
    (r.Answers method path ↔
      r.Serves method path ∨ (method = .head ∧ r.headFallback = true ∧ r.Serves .get path)) := by
  intro r
  have hkeyed : r.Keyed := new_keyed.run steps
  rcases resolve_cases r method path with ⟨hanswers, _⟩ | ⟨hown, hget, hresolve⟩
  · obtain ⟨route, hroute⟩ := hanswers
    rw [hroute]
    refine ⟨?_, ⟨?_, fun hnone => absurd ⟨route, hroute⟩ (hnone method)⟩, answers_iff⟩
    · rintro allowed ⟨⟩
    · rintro ⟨⟩
  · have hallowed := hkeyed.mem_allowed_iff hown
    rw [hresolve]
    cases hothers : r.otherMethods method path with
    | nil =>
      rw [hothers] at hallowed
      refine ⟨?_, ⟨fun _ m hanswers => ?_, fun _ => rfl⟩, answers_iff⟩
      · rintro allowed ⟨⟩
      · have hmem := (hallowed m).2 hanswers
        rw [AllowedMethods.mem_ofMethods] at hmem
        simp at hmem
    | cons first more =>
      rw [hothers] at hallowed
      refine ⟨?_, ⟨?_, fun hnone => ?_⟩, answers_iff⟩
      · rintro allowed ⟨⟩ m
        exact hallowed m
      · rintro ⟨⟩
      · have hmem : first ∈ (AllowedMethods.ofMethods r.headFallback (first :: more)).methods :=
          AllowedMethods.mem_ofMethods.2 (.inl List.mem_cons_self)
        exact absurd ((hallowed first).1 hmem) (hnone first)

end Router

end RequestRouting

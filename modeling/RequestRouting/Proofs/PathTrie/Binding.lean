import RequestRouting.Proofs.PathTrie.Numbering
import RequestRouting.Proofs.PathTrie.Search

/-!
# The parameters that a search binds

The slots of a node that a search finds are those of the pattern it returns, so the bound names are
the names of this pattern, every slot lies within the path, and the pattern with the values put in
the place of its names is the path again.
-/

set_option autoImplicit false

namespace RequestRouting

theorem Pattern.lt_of_covers {p : PatternPart} {rest : List PatternPart} {path : List String}
    {position : Nat} (h : covers (p :: rest) (path.drop position) = true) :
    position < path.length := by
  refine Nat.lt_of_not_le fun hle => ?_
  rw [List.drop_eq_nil_iff.2 hle] at h
  cases h

namespace ParamSlot

theorem ofParts_names (position : Nat) (parts : List PatternPart) :
    (ofParts position parts).map (·.name) = Pattern.names parts := by
  induction parts generalizing position with
  | nil => rfl
  | cons p rest ih =>
    cases hn : p.segment.paramName with
    | none => simpa [ofParts, Pattern.names, hn] using ih (position + 1)
    | some name => simpa [ofParts, Pattern.names, hn] using ih (position + 1)

theorem mem_ofParts_head {p : PatternPart} {name : String} (hname : p.segment.paramName = some name)
    (position : Nat) (rest : List PatternPart) :
    ⟨name, position, p.segment.isCatchAll⟩ ∈ ofParts position (p :: rest) := by
  rw [ofParts, hname]
  exact List.mem_cons_self

theorem mem_ofParts_tail {position : Nat} {rest : List PatternPart} {s : ParamSlot}
    (hs : s ∈ ofParts (position + 1) rest) (p : PatternPart) :
    s ∈ ofParts position (p :: rest) := by
  rw [ofParts]
  cases p.segment.paramName with
  | none => exact hs
  | some name => exact List.mem_cons_of_mem _ hs

theorem mem_ofParts {parts : List PatternPart} {p : PatternPart} {name : String} (hp : p ∈ parts)
    (hname : p.segment.paramName = some name) (position : Nat) :
    ∃ s ∈ ofParts position parts, s.name = name ∧ s.catchAll = p.segment.isCatchAll := by
  induction parts generalizing position with
  | nil => exact absurd hp List.not_mem_nil
  | cons q rest ih =>
    rcases List.mem_cons.1 hp with rfl | hp
    · exact ⟨_, mem_ofParts_head hname position rest, rfl, rfl⟩
    · obtain ⟨s, hs, hs'⟩ := ih hp (position + 1)
      exact ⟨s, mem_ofParts_tail hs q, hs'⟩

theorem position_lt {parts : List PatternPart} {path : List String} {position : Nat}
    (hcovers : Pattern.covers parts (path.drop position) = true) :
    ∀ s ∈ ofParts position parts, s.position < path.length := by
  induction parts generalizing position with
  | nil => exact fun s hs => absurd hs List.not_mem_nil
  | cons p rest ih =>
    have hlt := Pattern.lt_of_covers hcovers
    rw [List.drop_eq_getElem_cons hlt, Pattern.covers] at hcovers
    have hrest : ∀ s ∈ ofParts (position + 1) rest, s.position < path.length := by
      cases hsegment : p.segment with
      | literal text =>
        rw [hsegment, Bool.and_eq_true] at hcovers
        exact ih hcovers.2
      | param name =>
        rw [hsegment] at hcovers
        exact ih hcovers
      | catchAll name =>
        rw [hsegment, List.isEmpty_iff] at hcovers
        rw [hcovers]
        exact fun s hs => absurd hs List.not_mem_nil
    intro s hs
    cases hname : p.segment.paramName with
    | none =>
      rw [ofParts, hname] at hs
      exact hrest s hs
    | some name =>
      rw [ofParts, hname] at hs
      rcases List.mem_cons.1 hs with rfl | hs
      · exact hlt
      · exact hrest s hs

theorem value_eq_getElem (s : ParamSlot) {path : List String} (hlt : s.position < path.length)
    (hs : s.catchAll = false) : s.value path = path[s.position] := by
  simp [value, hs, List.getElem?_eq_getElem hlt]

end ParamSlot

namespace Pattern

/-- What stands in a path for a part of a pattern, given the values of the names and what is left
for a catch-all without one. -/
def fill (value : String → String) (leftover : List String) (p : PatternPart) : List String :=
  match p.segment with
  | .literal text => [text]
  | .param name => [value name]
  | .catchAll (some name) => Text.pieces '/' (value name)
  | .catchAll none => leftover

theorem fill_of_covers {value : String → String} {p : PatternPart} {rest : List PatternPart}
    {x : String} {path : List String} (hcovers : covers (p :: rest) (x :: path) = true)
    (hsingle : p.segment.isCatchAll = false)
    (hvalue : ∀ name, p.segment.paramName = some name → value name = x) :
    covers rest path = true ∧ ∀ leftover, fill value leftover p = [x] := by
  rw [covers] at hcovers
  cases hsegment : p.segment with
  | literal text =>
    rw [hsegment, Bool.and_eq_true, beq_iff_eq] at hcovers
    refine ⟨hcovers.2, fun leftover => ?_⟩
    simp [fill, hsegment, hcovers.1]
  | param name =>
    rw [hsegment] at hcovers hvalue
    refine ⟨hcovers, fun leftover => ?_⟩
    simp [fill, hsegment, hvalue name rfl]
  | catchAll name =>
    rw [hsegment] at hsingle
    cases hsingle

theorem fill_catchAll {value : String → String} {p : PatternPart} {leftover : List String}
    (hcatchAll : p.segment.isCatchAll = true) (hne : leftover ≠ [])
    (hslash : ∀ x ∈ leftover, '/' ∉ x.toList)
    (hvalue : ∀ name, p.segment.paramName = some name →
      value name = Text.joinWith (String.singleton '/') leftover) :
    fill value leftover p = leftover := by
  cases hsegment : p.segment with
  | literal text =>
    rw [hsegment] at hcatchAll
    cases hcatchAll
  | param name =>
    rw [hsegment] at hcatchAll
    cases hcatchAll
  | catchAll name =>
    rw [hsegment] at hvalue
    cases name with
    | none => simp [fill, hsegment]
    | some name =>
      have hfill : fill value leftover p = Text.pieces '/' (value name) := by simp [fill, hsegment]
      rw [hfill, hvalue name rfl]
      exact Text.pieces_joinWith hne hslash

theorem flatMap_fill {parts : List PatternPart} (value : String → String) (path : List String)
    (position : Nat) (hwell : WellFormed parts)
    (hcovers : covers parts (path.drop position) = true)
    (hslash : ∀ x ∈ path, '/' ∉ x.toList)
    (hvalue : ∀ s ∈ ParamSlot.ofParts position parts, value s.name = s.value path) :
    parts.flatMap (fill value (path.drop (position + parts.length - 1))) =
      path.drop position := by
  induction parts generalizing position with
  | nil =>
    cases hdrop : path.drop position with
    | nil => rfl
    | cons x rest =>
      rw [hdrop] at hcovers
      cases hcovers
  | cons p rest ih =>
    have hlt := Pattern.lt_of_covers hcovers
    have hdrop := List.drop_eq_getElem_cons hlt
    have hslot : ∀ name, p.segment.paramName = some name →
        value name = ParamSlot.value path ⟨name, position, p.segment.isCatchAll⟩ :=
      fun name hname => hvalue _ (ParamSlot.mem_ofParts_head hname position rest)
    cases hcatchAll : p.segment.isCatchAll with
    | true =>
      have hnil : rest = [] := hwell.eq_nil_of_catchAll hcatchAll
      have hne : path.drop position ≠ [] := hdrop ▸ List.cons_ne_nil _ _
      have hleft : ∀ x ∈ path.drop position, '/' ∉ x.toList :=
        fun x hx => hslash x (List.mem_of_mem_drop hx)
      rw [hcatchAll] at hslot
      subst hnil
      simpa using fill_catchAll hcatchAll hne hleft hslot
    | false =>
      have hsingle : ∀ name, p.segment.paramName = some name → value name = path[position] := by
        intro name hname
        rw [hslot name hname]
        exact ParamSlot.value_eq_getElem _ hlt hcatchAll
      rw [hdrop] at hcovers
      obtain ⟨hrest, hfill⟩ := fill_of_covers hcovers hcatchAll hsingle
      have hlength : position + (p :: rest).length - 1 = position + 1 + rest.length - 1 := by
        rw [List.length_cons]
        omega
      have hsub := ih (position + 1) hwell.tail hrest
        fun s hs => hvalue s (ParamSlot.mem_ofParts_tail hs p)
      rw [List.flatMap_cons, hlength, hsub, hfill, hdrop, List.singleton_append]

end Pattern

/-- The parameters bind the names of the parts to what stands in their places in the path. -/
structure Params.Binds (params : Params) (parts : List PatternPart) (path : List String) :
    Prop where
  names : params.pairs.map (·.1) = Pattern.names parts
  nodup : (params.pairs.map (·.1)).Nodup
  param : ∀ p ∈ parts, ∀ name, p.segment = .param name → ∃ value,
    params.get? name = some value ∧ value ∈ path ∧ value ≠ "" ∧ '/' ∉ value.toList
  catchAll : ∀ p ∈ parts, ∀ name, p.segment = .catchAll (some name) → ∃ value,
    params.get? name = some value ∧ value ≠ ""
  filled : parts.flatMap (Pattern.fill (fun name => params.getOr name "")
    (path.drop (parts.length - 1))) = path

namespace Registration

variable {α : Type}

theorem params_names (r : Registration α) (path : List String) :
    (r.params path).pairs.map (·.1) = Pattern.names r.parts := by
  rw [params, List.map_map, ← ParamSlot.ofParts_names 0 r.parts]
  rfl

theorem params_nodup (r : Registration α) (path : List String) :
    ((r.params path).pairs.map (·.1)).Nodup := by
  rw [params_names]
  exact r.names_nodup

theorem get?_params (r : Registration α) (path : List String) {s : ParamSlot}
    (hs : s ∈ ParamSlot.ofParts 0 r.parts) : (r.params path).get? s.name = some (s.value path) :=
  lookup_eq_some_of_nodup (r.params_nodup path) (List.mem_map.2 ⟨s, hs, rfl⟩)

theorem binds (r : Registration α) {path : List String} (hcovers : r.covers path = true)
    (hpath : ∀ x ∈ path, x ≠ "" ∧ '/' ∉ x.toList) : (r.params path).Binds r.parts path := by
  have hlt : ∀ s ∈ ParamSlot.ofParts 0 r.parts, s.position < path.length :=
    ParamSlot.position_lt hcovers
  refine ⟨r.params_names path, r.params_nodup path, ?_, ?_, ?_⟩
  · intro p hp name hname
    have hparam : p.segment.paramName = some name := by
      rw [hname]
      rfl
    obtain ⟨s, hs, rfl, hcatchAll⟩ := ParamSlot.mem_ofParts hp hparam 0
    rw [hname] at hcatchAll
    refine ⟨_, r.get?_params path hs, ?_⟩
    rw [s.value_eq_getElem (hlt s hs) hcatchAll]
    have hmem := List.getElem_mem (hlt s hs)
    exact ⟨hmem, hpath _ hmem⟩
  · intro p hp name hname
    have hparam : p.segment.paramName = some name := by
      rw [hname]
      rfl
    obtain ⟨s, hs, rfl, hcatchAll⟩ := ParamSlot.mem_ofParts hp hparam 0
    rw [hname] at hcatchAll
    refine ⟨_, r.get?_params path hs, ?_⟩
    rw [ParamSlot.value, hcatchAll]
    refine Text.joinWith_ne_empty ?_ fun x hx => (hpath x (List.mem_of_mem_drop hx)).1
    rw [List.drop_eq_getElem_cons (hlt s hs)]
    exact List.cons_ne_nil _ _
  · have hvalue : ∀ s ∈ ParamSlot.ofParts 0 r.parts,
        (r.params path).getOr s.name "" = s.value path := by
      intro s hs
      rw [Params.getOr, r.get?_params path hs, Option.getD_some]
    have hfill := Pattern.flatMap_fill (fun name => (r.params path).getOr name "") path 0
      r.wellFormed hcovers (fun x hx => (hpath x hx).2) hvalue
    simpa using hfill

end Registration

namespace PathTrie

variable {α : Type}

theorem root_id_insertAll {t : PathTrie α} (h : t.root.id = 0) (calls : List (String × α)) :
    (t.insertAll calls).root.id = 0 := by
  induction calls generalizing t with
  | nil => exact h
  | cons call rest ih =>
    refine ih ?_
    rcases insert_cases t call.1 call.2 with ⟨e, hinsert, _⟩ | ⟨r, _, _, _, _, hinsert⟩
    · rw [hinsert]
      exact h
    · rw [hinsert, add, PathNode.graft_id]
      exact h

theorem Numbered.child_getElem? {t : PathTrie α} (h : t.Numbered) {n c : PathNode α}
    (hn : n ∈ t.nodes) (hc : c ∈ n.children) : t.nodes[c.id]? = some c := by
  obtain ⟨id, _, hid⟩ := List.mem_filterMap.1 hn
  have hmem : n ∈ t.root.preorder := List.mem_of_find?_eq_some hid
  exact h.nodes_getElem? (PathNode.mem_preorder_trans hmem
    (PathNode.mem_preorder_of_child hc (PathNode.mem_preorder_self c)))

/-- After any run of insertions, a search that hits reads nothing out of range: the root, the
children of every node and the node found stand at their numbers, and the slots lie within the path.
What it binds are the names of the pattern it returns, to the parts of the path in their places. -/
theorem search_binds (calls : List (String × α)) (path : String) :
    let trie := (empty : PathTrie α).insertAll calls
    (trie.nodes[0]? = some trie.root ∧
      ∀ n ∈ trie.nodes, ∀ c ∈ n.children, trie.nodes[c.id]? = some c) ∧
    ∀ m, trie.search path = some m → ∃ n parts,
      trie.root.walk (pathParts path) = some n ∧ trie.nodes[m.node]? = some n ∧
      (∀ s ∈ n.slots, s.position < (pathParts path).length) ∧
      Pattern.parse m.pattern = .ok parts ∧ m.params.Binds parts (pathParts path) := by
  intro trie
  have hnumbered : trie.Numbered := numbered_run calls
  have hroot : trie.root.id = 0 := root_id_insertAll rfl calls
  refine ⟨⟨?_, fun n hn c hc => hnumbered.child_getElem? hn hc⟩, ?_⟩
  · rw [← hroot]
    exact hnumbered.nodes_getElem? (PathNode.mem_preorder_self trie.root)
  · intro m hm
    rcases search_cases (represents_run calls) path with
      ⟨hnone, _⟩ | ⟨r, hr, n, hcovers, hwalk, hholds, hsome, _⟩
    · rw [hnone] at hm
      cases hm
    · rw [hsome] at hm
      cases hm
      refine ⟨n, r.parts, hwalk, hnumbered.nodes_getElem?
        (PathNode.mem_preorder_of_descend? hholds.place), ?_, r.parsed, ?_⟩
      · rw [hholds.slots]
        exact ParamSlot.position_lt hcovers
      · exact r.binds hcovers fun x hx =>
          ⟨ne_empty_of_mem_pathParts hx, slash_not_mem_of_mem_pathParts hx⟩

end PathTrie

end RequestRouting

import Mathlib.Data.List.Find
import RequestRouting.PathTrie.Arena
import RequestRouting.Proofs.PathTrie.SegmentTree

/-!
# Lookups in the arena and in the tree

Where the nodes of a tree lie in an arena at the places of their numbers, following the numbers
finds what is found along the branches: the same children, the same way of a pattern, the same match
of a path, and the same nodes in the loop with a stack.
-/

set_option autoImplicit false

namespace RequestRouting

variable {α : Type}

def PathNode.flat (n : PathNode α) : ArenaNode α :=
  ⟨n.segment, n.kind, n.children.map (·.id), n.slots, n.terminal⟩

theorem PathNode.mem_preorder_of_walk {parts : List String} {n m : PathNode α}
    (h : n.walk parts = some m) : m ∈ n.preorder := by
  induction parts generalizing n with
  | nil =>
    rw [walk] at h
    split at h
    · cases h
      exact mem_preorder_self m
    · cases h
  | cons p rest ih =>
    rw [walk] at h
    obtain ⟨before, c, after, hsplit, hhit, -⟩ := List.findSome?_eq_some_iff.1 h
    have hc : c ∈ n.children := hsplit ▸ List.mem_append_right _ List.mem_cons_self
    refine mem_preorder_of_child hc ?_
    split at hhit
    · split at hhit
      · cases hhit
        exact mem_preorder_self m
      · cases hhit
    · exact ih hhit
    · split at hhit
      · exact ih hhit
      · cases hhit
    · cases hhit

namespace PathArena

/-- All nodes from this one on lie at the places of their numbers. -/
def Carries (a : PathArena α) (n : PathNode α) : Prop :=
  ∀ m ∈ n.preorder, a.nodes[m.id]? = some m.flat

namespace Carries

variable {a : PathArena α} {n : PathNode α}

theorem below (h : a.Carries n) {m : PathNode α} (hm : m ∈ n.preorder) : a.Carries m :=
  fun k hk => h k (PathNode.mem_preorder_trans hm hk)

theorem child (h : a.Carries n) {c : PathNode α} (hc : c ∈ n.children) : a.Carries c :=
  h.below (PathNode.mem_preorder_of_child hc c.mem_preorder_self)

theorem here (h : a.Carries n) : a.nodes[n.id]? = some n.flat := h n n.mem_preorder_self

theorem children_eq (h : a.Carries n) : a.children n.id = n.children.map (·.id) := by
  rw [children, h.here]
  rfl

theorem terminal?_eq (h : a.Carries n) : a.terminal? n.id = n.terminal := by
  rw [terminal?, h.here]
  rfl

theorem find?_children (h : a.Carries n) (p : ArenaNode α → Bool) :
    ((a.children n.id).find? fun c => (a.nodes[c]?).any p) =
      (n.children.find? fun c => p c.flat).map (·.id) := by
  rw [h.children_eq, List.find?_map]
  refine congrArg (Option.map _) (List.find?_congr fun c hc => ?_)
  rw [Function.comp_apply, (h.child hc).here]
  rfl

theorem findChild?_eq (h : a.Carries n) (raw : String) :
    a.findChild? n.id raw = (n.child? raw).map (·.id) :=
  h.find?_children _

theorem catchAllChild?_eq (h : a.Carries n) :
    a.catchAllChild? n.id = n.catchAllChild?.map (·.id) :=
  h.find?_children _

theorem clash?_eq (h : a.Carries n) (parts : List PatternPart) :
    a.clash? parts n.id = n.clash? parts := by
  induction parts generalizing n with
  | nil => rfl
  | cons p rest ih =>
    rw [clash?, PathNode.clash?, h.findChild?_eq, h.catchAllChild?_eq]
    cases hchild : n.child? p.raw with
    | some c => exact ih (h.child (List.mem_of_find?_eq_some hchild))
    | none =>
      simp only [Option.map_none]
      split
      · cases hcatch : n.catchAllChild? with
        | none => rfl
        | some c =>
          have hc := h.child (List.mem_of_find?_eq_some hcatch)
          simp only [Option.map_some, Option.bind_some, hc.here]
          rfl
      · rfl

theorem descend?_eq (h : a.Carries n) (parts : List PatternPart) :
    a.descend? parts n.id = (n.descend? parts).map (·.id) := by
  induction parts generalizing n with
  | nil => rfl
  | cons p rest ih =>
    rw [descend?, PathNode.descend?, h.findChild?_eq]
    cases hchild : n.child? p.raw with
    | some c => exact ih (h.child (List.mem_of_find?_eq_some hchild))
    | none => rfl

theorem walk_eq (h : a.Carries n) (parts : List String) :
    a.walk parts n.id = (n.walk parts).map (·.id) := by
  induction parts generalizing n with
  | nil =>
    rw [walk, PathNode.walk, h.terminal?_eq]
    cases n.terminal <;> rfl
  | cons p rest ih =>
    rw [walk, PathNode.walk, h.children_eq, List.findSome?_map, List.map_findSome?]
    rw [← List.head?_filterMap, ← List.head?_filterMap]
    refine congrArg List.head? (List.filterMap_congr fun c hc => ?_)
    have hchild := h.child hc
    rw [Function.comp_apply, hchild.here, Option.bind_some, Function.comp_apply]
    dsimp only [PathNode.flat]
    cases c.kind with
    | root => rfl
    | literal =>
      show (if c.segment == p then a.walk rest c.id else none) =
        (if c.segment == p then c.walk rest else none).map (·.id)
      split
      · exact ih hchild
      · rfl
    | param => exact ih hchild
    | catchAll => cases c.terminal <;> rfl

/-- The loop ends with an empty stack as soon as it may take as many nodes as there are. -/
theorem unstack_eq {stack : List (PathNode α)} (h : ∀ n ∈ stack, a.Carries n) {fuel : Nat}
    (hfuel : (stack.flatMap PathNode.preorder).length ≤ fuel) :
    a.unstack fuel (stack.map (·.id)) = (stack.flatMap PathNode.preorder).map (·.id) := by
  induction fuel generalizing stack with
  | zero => rw [List.eq_nil_of_length_eq_zero (Nat.le_zero.1 hfuel)]; rfl
  | succ fuel ih =>
    cases stack with
    | nil => rfl
    | cons n stack =>
      obtain ⟨hn, hstack⟩ := List.forall_mem_cons.1 h
      have hflat : (n :: stack).flatMap PathNode.preorder =
          n :: (n.children ++ stack).flatMap PathNode.preorder := by
        rw [List.flatMap_cons, List.flatMap_append, n.preorder_eq, List.cons_append]
      rw [hflat, List.length_cons] at hfuel
      rw [List.map_cons, unstack, hn.children_eq, ← List.map_append, hflat, List.map_cons]
      refine congrArg _ (ih (fun c hc => ?_) (Nat.le_of_succ_le_succ hfuel))
      rcases List.mem_append.1 hc with hc | hc
      · exact hn.child hc
      · exact hstack c hc

end Carries

end PathArena

end RequestRouting

import Mathlib.Data.List.Perm.Basic
import RequestRouting.Proofs.PathTrie.Binding
import RequestRouting.Proofs.PathTrie.CatchAll

/-!
# The tree of segments

The list of all nodes of a trie, whose children are given by their numbers, is a tree: the root
comes first, and each other node hangs on exactly one node of a smaller number. What the nodes
carry fits the patterns that end at them.
-/

set_option autoImplicit false

namespace RequestRouting

namespace PathNode

variable {α : Type} {log : History α} {path : List String} {n : PathNode α}

/-- Every node below has a larger number than the one that it hangs on. -/
def Rises (n : PathNode α) : Prop := ∀ m ∈ n.preorder, ∀ c ∈ m.children, m.id < c.id

theorem rises_iff :
    n.Rises ↔ (∀ c ∈ n.children, n.id < c.id) ∧ ∀ c ∈ n.children, c.Rises := by
  unfold Rises
  rw [preorder_eq]
  constructor
  · intro h
    refine ⟨h n List.mem_cons_self, fun c hc m hm => h m ?_⟩
    exact List.mem_cons_of_mem _ (List.mem_flatMap.2 ⟨c, hc, hm⟩)
  · rintro ⟨hhere, hbelow⟩ m hm
    rcases List.mem_cons.1 hm with rfl | hm
    · exact hhere
    · obtain ⟨c, hc, hm⟩ := List.mem_flatMap.1 hm
      exact hbelow c hc m hm

theorem mem_ids_self (n : PathNode α) : n.id ∈ n.ids := by
  rw [ids_eq]
  exact List.mem_cons_self

theorem mem_ids_of_child {c : PathNode α} (hc : c ∈ n.children) {id : Nat} (hid : id ∈ c.ids) :
    id ∈ n.ids := by
  rw [ids_eq]
  exact List.mem_cons_of_mem _ (List.mem_flatMap.2 ⟨c, hc, hid⟩)

theorem Rises.graft (h : n.Rises) (slots : List ParamSlot) (terminal : Terminal α)
    (parts : List PatternPart) {next : Nat} (hlt : ∀ id ∈ n.ids, id < next) :
    (n.graft slots terminal parts next).Rises := by
  induction parts generalizing n next with
  | nil =>
    have hsplit := rises_iff.1 h
    rw [PathNode.graft, rises_iff]
    exact hsplit
  | cons p rest ih =>
    obtain ⟨hhere, hbelow⟩ := rises_iff.1 h
    have hself : n.id < next := hlt n.id (mem_ids_self n)
    rw [PathNode.graft, rises_iff]
    split
    · have hchild : ∀ d ∈ n.children.map (fun c =>
          if c.segment == p.raw then PathNode.graft slots terminal rest next c else c),
          n.id < d.id ∧ d.Rises := by
        intro d hd
        obtain ⟨c, hc, rfl⟩ := List.mem_map.1 hd
        split
        · rw [graft_id]
          exact ⟨hhere c hc, ih (hbelow c hc) fun id hid => hlt id (mem_ids_of_child hc hid)⟩
        · exact ⟨hhere c hc, hbelow c hc⟩
      exact ⟨fun d hd => (hchild d hd).1, fun d hd => (hchild d hd).2⟩
    · let new : PathNode α := { fresh next p with slots := slots }
      have hnew : new.Rises := rises_iff.2
        ⟨fun c hc => absurd hc List.not_mem_nil, fun c hc => absurd hc List.not_mem_nil⟩
      have hids : ∀ id ∈ new.ids, id < next + 1 := by simp [new, ids_eq, fresh]
      constructor
      · intro d hd
        rcases List.mem_append.1 hd with hd | hd
        · exact hhere d hd
        · rw [List.mem_singleton.1 hd, graft_id]
          exact hself
      · intro d hd
        rcases List.mem_append.1 hd with hd | hd
        · exact hbelow d hd
        · rw [List.mem_singleton.1 hd]
          exact ih hnew hids

theorem ids_perm_links (n : PathNode α) :
    n.ids.Perm (n.id :: n.preorder.flatMap fun m => m.children.map (·.id)) := by
  induction n using induct with
  | step n ih =>
    rw [ids_eq, preorder_eq, List.flatMap_cons, List.flatMap_assoc]
    refine List.Perm.cons _ ((List.Perm.flatMap_left _ ih).trans ?_)
    exact (List.map_append_flatMap_perm _ _ _).symm

theorem mem_preorder_cases {m : PathNode α} (hm : m ∈ n.preorder) :
    m = n ∨ ∃ parent ∈ n.preorder, m ∈ parent.children := by
  induction n using induct with
  | step n ih =>
    rw [preorder_eq] at hm
    rcases List.mem_cons.1 hm with rfl | hm
    · exact .inl rfl
    · obtain ⟨c, hc, hm⟩ := List.mem_flatMap.1 hm
      rcases ih c hc hm with rfl | ⟨parent, hparent, hchild⟩
      · exact .inr ⟨n, mem_preorder_self n, hc⟩
      · exact .inr ⟨parent, mem_preorder_of_child hc hparent, hchild⟩

theorem Represents.child_kind (h : Represents log path n) {c : PathNode α}
    (hc : c ∈ n.children) : c.kind ≠ .root := by
  obtain ⟨segment, _, hkind⟩ := h.here.spreads.kinds c hc
  rw [hkind]
  cases segment <;> simp [NodeKind.ofSegment]

end PathNode

namespace PathTrie

variable {α : Type} {log : History α} {t : PathTrie α}

namespace Numbered

theorem nodes_ids (h : t.Numbered) : t.nodes.map (·.id) = List.range t.nodeCount := by
  rw [nodes, List.map_filterMap]
  refine (List.filterMap_congr fun id hid => ?_).trans List.filterMap_some
  obtain ⟨n, hn⟩ := Option.isSome_iff_exists.1 (h.node?_isSome (List.mem_range.1 hid))
  have hsame : n.id = id := by simpa using List.find?_some hn
  rw [hn, Option.map_some, hsame]

theorem id_eq_of_getElem? (h : t.Numbered) {id : Nat} {n : PathNode α}
    (hn : t.nodes[id]? = some n) : n.id = id := by
  have hplace : (List.range t.nodeCount)[id]? = some n.id := by
    rw [← h.nodes_ids, List.getElem?_map, hn]
    rfl
  obtain ⟨_, heq⟩ := List.getElem?_eq_some_iff.1 hplace
  rw [← heq, List.getElem_range]

theorem mem_nodes_iff (h : t.Numbered) {n : PathNode α} :
    n ∈ t.nodes ↔ n ∈ t.root.preorder := by
  constructor
  · intro hn
    obtain ⟨id, _, hid⟩ := List.mem_filterMap.1 hn
    exact List.mem_of_find?_eq_some hid
  · exact fun hn => List.mem_of_getElem? (h.nodes_getElem? hn)

theorem nodes_perm (h : t.Numbered) : t.nodes.Perm t.root.preorder := by
  have hnodes : t.nodes.Nodup := List.Nodup.of_map (·.id) (h.nodes_ids ▸ List.nodup_range)
  have hpreorder : t.root.preorder.Nodup := List.Nodup.of_map PathNode.id h.nodup
  exact (List.perm_ext_iff_of_nodup hnodes hpreorder).2 fun n => h.mem_nodes_iff

theorem length_nodes (h : t.Numbered) : t.nodes.length = t.nodeCount := by
  rw [← List.length_map (·.id), h.nodes_ids, List.length_range]

end Numbered

/-- The texts on a way from the root to a node. -/
inductive Leads (t : PathTrie α) : List String → PathNode α → Prop where
  | root : t.Leads [] t.root
  | child {way : List String} {n c : PathNode α} (h : t.Leads way n) (hc : c ∈ n.children) :
      t.Leads (way ++ [c.segment]) c

theorem Leads.represents {way : List String} {n : PathNode α} (h : t.Leads way n)
    (ht : t.root.Represents log []) : n.Represents log way := by
  induction h with
  | root => exact ht
  | child _ hc ih => exact ih.child hc

theorem Leads.reaches {way : List String} {n m : PathNode α} (h : t.Leads way n)
    (hm : m ∈ n.preorder) : ∃ way, t.Leads way m := by
  induction n using PathNode.induct generalizing way with
  | step n ih =>
    rw [PathNode.preorder_eq] at hm
    rcases List.mem_cons.1 hm with rfl | hm
    · exact ⟨way, h⟩
    · obtain ⟨c, hc, hm⟩ := List.mem_flatMap.1 hm
      exact ih c hc (h.child hc) hm

structure SegmentTree (t : PathTrie α) : Prop where
  root : t.nodes[0]? = some t.root
  root_kind : ∀ n ∈ t.nodes, n.kind = .root ↔ n.id = 0
  numbers : t.nodes.map (·.id) = List.range t.nodes.length
  /-- Every number but zero occurs in one list of children, and once there. -/
  linked_once : (t.nodes.flatMap fun n => n.children.map (·.id)).Perm
    (List.range' 1 (t.nodes.length - 1))
  child : ∀ n ∈ t.nodes, ∀ c ∈ n.children, t.nodes[c.id]? = some c ∧ n.id < c.id
  siblings : ∀ n ∈ t.nodes, (n.children.map (·.segment)).Nodup
  single_catchAll : ∀ n ∈ t.nodes, (n.children.filter (·.kind == .catchAll)).length ≤ 1
  catchAll_ends : ∀ n ∈ t.nodes, n.kind = .catchAll →
    n.terminal.isSome = true ∧ n.children = []
  childless : ∀ n ∈ t.nodes, n.id ≠ 0 → n.children = [] → n.terminal.isSome = true
  way : ∀ n ∈ t.nodes, ∃ way, t.Leads way n
  /-- The way to a terminal node is made of the parts of its pattern; their number and the slots
  are those of this pattern. -/
  terminal : ∀ way n, t.Leads way n → ∀ x, n.terminal = some x → way = pathParts x.pattern ∧
    ∃ parts, Pattern.parse x.pattern = .ok parts ∧ way.length = parts.length ∧
      n.slots = ParamSlot.ofParts 0 parts
  size : t.size = (t.nodes.filter (·.terminal.isSome)).length

/-- A trie that the history describes, with its numbers and its size in order. -/
structure Embodies (t : PathTrie α) (log : History α) : Prop where
  represents : t.root.Represents log []
  numbered : t.Numbered
  root_id : t.root.id = 0
  root_kind : t.root.kind = .root
  rises : t.root.Rises
  counted : t.Counted
  single : log.SingleCatchAll

theorem empty_embodies : (empty : PathTrie α).Embodies [] where
  represents := empty_represents
  numbered := empty_numbered
  root_id := rfl
  root_kind := rfl
  rises := PathNode.rises_iff.2
    ⟨fun _ hc => absurd hc List.not_mem_nil, fun _ hc => absurd hc List.not_mem_nil⟩
  counted := empty_counted
  single := fun _ hr => absurd hr List.not_mem_nil

theorem Embodies.add (h : t.Embodies log) {r : Registration α}
    (hclash : t.root.clash? r.parts = none) : (t.add r).Embodies (log ++ [r]) where
  represents := represents_add h.represents r
  numbered := h.numbered.add h.represents r
  root_id := (PathNode.graft_id _ _ _ _ _).trans h.root_id
  root_kind := (PathNode.graft_kind _ _ _ _ _).trans h.root_kind
  rises := h.rises.graft _ _ _ fun id hid => by
    obtain ⟨n, hn, rfl⟩ := List.mem_map.1 hid
    exact h.numbered.id_lt hn
  counted := h.counted.add h.represents r
  single := h.single.add h.represents hclash

theorem Embodies.insert (h : t.Embodies log) (pattern : String) (value : α) :
    (t.insert pattern value).2.Embodies (log ++ (t.registration? pattern value).toList) := by
  rcases insert_cases t pattern value with ⟨e, hinsert, hnone⟩ | ⟨r, _, _, hclash, hsome, hinsert⟩
  · rw [hinsert, hnone, Option.toList_none, List.append_nil]
    exact h
  · rw [hinsert, hsome]
    exact h.add hclash

theorem Embodies.insertAll (h : t.Embodies log) (calls : List (String × α)) :
    (t.insertAll calls).Embodies (log ++ t.accepted calls) := by
  induction calls generalizing log t with
  | nil => simpa [PathTrie.insertAll, accepted] using h
  | cons call rest ih =>
    obtain ⟨pattern, value⟩ := call
    rw [PathTrie.insertAll, accepted, ← List.append_assoc]
    exact ih (h.insert pattern value)

theorem Embodies.leads (h : t.Embodies log) {n : PathNode α} (hn : n ∈ t.nodes) :
    ∃ way, t.Leads way n := Leads.root.reaches (h.numbered.mem_nodes_iff.1 hn)

theorem Embodies.root_or_child (h : t.Embodies log) {n : PathNode α} (hn : n ∈ t.nodes) :
    n = t.root ∨ n.id ≠ 0 ∧ ∃ (parent : PathNode α) (way : List String),
      parent.Represents log way ∧ n ∈ parent.children := by
  rcases PathNode.mem_preorder_cases (h.numbered.mem_nodes_iff.1 hn) with
    rfl | ⟨parent, hparent, hchild⟩
  · exact .inl rfl
  · obtain ⟨way, hway⟩ := Leads.root.reaches hparent
    have hlt := h.rises parent hparent n hchild
    exact .inr ⟨by omega, parent, way, hway.represents h.represents, hchild⟩

theorem Embodies.terminal_of_leads (h : t.Embodies log) {way : List String} {n : PathNode α}
    (hway : t.Leads way n) {x : Terminal α} (hx : n.terminal = some x) :
    way = pathParts x.pattern ∧ ∃ parts, Pattern.parse x.pattern = .ok parts ∧
      way.length = parts.length ∧ n.slots = ParamSlot.ofParts 0 parts := by
  have hhere := (hway.represents h.represents).here
  rw [hhere.terminal, Option.map_eq_some_iff] at hx
  obtain ⟨r, hlatest, rfl⟩ := hx
  obtain ⟨_, rfl⟩ := History.latest?_eq_some hlatest
  exact ⟨r.raws_eq, r.parts, r.parsed, r.length_raws, hhere.slots r hlatest⟩

theorem Embodies.links_perm (h : t.Embodies log) :
    (t.nodes.flatMap fun n => n.children.map (·.id)).Perm
      (List.range' 1 (t.nodes.length - 1)) := by
  have hlinks := (t.root.ids_perm_links).symm.trans h.numbered
  have hpos : t.nodeCount = t.nodeCount - 1 + 1 :=
    (Nat.succ_pred_eq_of_pos (Nat.zero_lt_of_lt (h.numbered.id_lt t.root.mem_preorder_self))).symm
  rw [h.root_id, hpos, List.range_eq_range', List.range'_succ, List.perm_cons] at hlinks
  rw [h.numbered.length_nodes]
  exact (h.numbered.nodes_perm.flatMap_right _).trans hlinks

theorem Embodies.size_eq (h : t.Embodies log) :
    t.size = (t.nodes.filter (·.terminal.isSome)).length := by
  have hsome : ∀ nodes : List (PathNode α),
      (nodes.filterMap (·.terminal)).length = (nodes.filter (·.terminal.isSome)).length := by
    intro nodes
    rw [List.length_filterMap_eq_countP, List.countP_eq_length_filter]
  rw [h.counted, terminals, PathNode.terminals, hsome]
  exact (h.numbered.nodes_perm.symm.filter _).length_eq

theorem Embodies.segmentTree (h : t.Embodies log) : t.SegmentTree where
  root := h.root_id ▸ h.numbered.nodes_getElem? t.root.mem_preorder_self
  root_kind n hn := by
    rcases h.root_or_child hn with rfl | ⟨hid, parent, way, hparent, hchild⟩
    · exact iff_of_true h.root_kind h.root_id
    · exact iff_of_false (hparent.child_kind hchild) hid
  numbers := h.numbered.length_nodes.symm ▸ h.numbered.nodes_ids
  linked_once := h.links_perm
  child n hn c hc := ⟨h.numbered.child_getElem? hn hc,
    h.rises n (h.numbered.mem_nodes_iff.1 hn) c hc⟩
  siblings n hn := by
    obtain ⟨way, hway⟩ := h.leads hn
    exact (hway.represents h.represents).here.spreads.segments_nodup
  single_catchAll n hn := by
    obtain ⟨way, hway⟩ := h.leads hn
    exact (hway.represents h.represents).single_catchAll h.single
  catchAll_ends n hn hkind := by
    rcases h.root_or_child hn with rfl | ⟨hid, parent, way, hparent, hchild⟩
    · rw [h.root_kind] at hkind
      cases hkind
    · exact hparent.catchAll_ends hchild hkind
  childless n hn hid hnil := by
    rcases h.root_or_child hn with rfl | ⟨_, parent, way, hparent, hchild⟩
    · exact absurd h.root_id hid
    · exact hparent.childless_terminal hchild hnil
  way n hn := h.leads hn
  terminal way n hway x hx := h.terminal_of_leads hway hx
  size := h.size_eq

/-- After any run of insertions, those that are refused included, the nodes are a tree of segments
in good order. -/
theorem segmentTree_insertAll (calls : List (String × α)) :
    ((empty : PathTrie α).insertAll calls).SegmentTree :=
  (empty_embodies.insertAll calls).segmentTree

end PathTrie

end RequestRouting

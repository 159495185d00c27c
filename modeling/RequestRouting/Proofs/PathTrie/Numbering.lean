import RequestRouting.Proofs.PathTrie.Insertion

/-!
# The numbers of the nodes

The nodes of a trie are numbered without gaps and without repetition from zero on, so that the
number of a node is its place in the list of all nodes.
-/

set_option autoImplicit false

namespace RequestRouting

namespace PathNode

variable {α : Type} {log : History α} {path : List String} {n : PathNode α}

theorem preorderList_eq_flatMap (nodes : List (PathNode α)) :
    preorderList nodes = nodes.flatMap preorder := by
  induction nodes with
  | nil => rfl
  | cons n rest ih => rw [preorderList, ih, List.flatMap_cons]

theorem preorder_eq (n : PathNode α) : n.preorder = n :: n.children.flatMap preorder := by
  cases n
  rw [preorder, preorderList_eq_flatMap]

theorem mem_preorder_self (n : PathNode α) : n ∈ n.preorder := by
  rw [preorder_eq]
  exact List.mem_cons_self

theorem mem_preorder_of_child {c m : PathNode α} (hc : c ∈ n.children) (hm : m ∈ c.preorder) :
    m ∈ n.preorder := by
  rw [preorder_eq]
  exact List.mem_cons_of_mem _ (List.mem_flatMap.2 ⟨c, hc, hm⟩)

theorem induct {motive : PathNode α → Prop}
    (step : ∀ n, (∀ c ∈ n.children, motive c) → motive n) (n : PathNode α) : motive n :=
  step n fun c _ => induct step c
termination_by sizeOf n
decreasing_by
  rename_i hc
  have hlt := List.sizeOf_lt_of_mem hc
  cases n
  simp only [PathNode.mk.sizeOf_spec] at hlt ⊢
  omega

theorem mem_preorder_trans {c m : PathNode α} (hc : c ∈ n.preorder) (hm : m ∈ c.preorder) :
    m ∈ n.preorder := by
  induction n using induct with
  | step n ih =>
    rw [preorder_eq] at hc
    rcases List.mem_cons.1 hc with rfl | hc
    · exact hm
    · obtain ⟨d, hd, hc⟩ := List.mem_flatMap.1 hc
      exact mem_preorder_of_child hd (ih d hd hc)

theorem mem_preorder_of_descend? {parts : List PatternPart} {m : PathNode α}
    (h : n.descend? parts = some m) : m ∈ n.preorder := by
  induction parts generalizing n with
  | nil =>
    cases h
    exact mem_preorder_self m
  | cons p rest ih =>
    rw [descend?, Option.bind_eq_some_iff] at h
    obtain ⟨c, hc, hm⟩ := h
    exact mem_preorder_of_child (List.mem_of_find?_eq_some hc) (ih hm)

def ids (n : PathNode α) : List Nat := n.preorder.map (·.id)

theorem ids_eq (n : PathNode α) : n.ids = n.id :: n.children.flatMap ids := by
  rw [ids, preorder_eq, List.map_cons, List.map_flatMap]
  rfl

theorem map_child {children : List (PathNode α)} (h : (children.map (·.segment)).Nodup)
    {c : PathNode α} (hc : c ∈ children) (f : PathNode α → PathNode α) :
    ∃ before after, children = before ++ c :: after ∧
      (children.map fun d => if d.segment == c.segment then f d else d) =
        before ++ f c :: after := by
  obtain ⟨before, after, hsplit⟩ := List.append_of_mem hc
  rw [hsplit, List.map_append, List.map_cons, List.nodup_middle, List.nodup_cons] at h
  have hother : ∀ d, d ∈ before ++ after → (d.segment == c.segment) = false := by
    intro d hd
    have hne : d.segment ≠ c.segment := by
      intro heq
      refine h.1 ?_
      rw [← heq, ← List.map_append]
      exact List.mem_map_of_mem hd
    simpa using hne
  have hkeep : ∀ part : List (PathNode α), (∀ d ∈ part, d ∈ before ++ after) →
      (part.map fun d => if d.segment == c.segment then f d else d) = part := by
    intro part hpart
    refine (List.map_congr_left ?_).trans (List.map_id part)
    intro d hd
    rw [hother d (hpart d hd)]
    rfl
  refine ⟨before, after, hsplit, ?_⟩
  rw [hsplit, List.map_append, List.map_cons, hkeep before (fun d => List.mem_append_left _),
    hkeep after (fun d => List.mem_append_right _)]
  simp

/-- Among siblings of different texts, only the child that is found first is rewritten. -/
theorem graft_of_child (h : (n.children.map (·.segment)).Nodup) {p : PatternPart}
    {c : PathNode α} (hchild : n.child? p.raw = some c) (slots : List ParamSlot)
    (terminal : Terminal α) (rest : List PatternPart) (next : Nat) :
    ∃ before after, n.children = before ++ c :: after ∧
      n.graft slots terminal (p :: rest) next =
        { n with children := before ++ c.graft slots terminal rest next :: after } := by
  have hraw : c.segment = p.raw := by simpa using List.find?_some hchild
  obtain ⟨before, after, hsplit, hmap⟩ :=
    map_child h (List.mem_of_find?_eq_some hchild) (PathNode.graft slots terminal rest next)
  refine ⟨before, after, hsplit, ?_⟩
  rw [graft, hchild, Option.isSome_some, if_pos rfl, ← hraw, hmap]

theorem graft_of_no_child {p : PatternPart} (hchild : n.child? p.raw = none)
    (slots : List ParamSlot) (terminal : Terminal α) (rest : List PatternPart) (next : Nat) :
    n.graft slots terminal (p :: rest) next = { n with children := n.children ++
      [PathNode.graft slots terminal rest (next + 1) { fresh next p with slots := slots }] } := by
  rw [graft, hchild]
  rfl

theorem missing_of_no_children {parts : List PatternPart} (h : n.children = []) :
    n.missing parts = parts.length := by
  cases parts with
  | nil => rfl
  | cons p rest => simp [missing, child?, h]

/-- Grafting numbers the nodes that were missing, and no other, from `next` on. -/
theorem ids_graft (slots : List ParamSlot) (terminal : Terminal α) (parts : List PatternPart)
    (next : Nat) (h : Represents log path n) :
    (n.graft slots terminal parts next).ids.Perm
      (n.ids ++ List.range' next (n.missing parts)) := by
  induction parts generalizing log path n next with
  | nil => simp [graft, missing, ids_eq]
  | cons p rest ih =>
    cases hchild : n.child? p.raw with
    | some c =>
      have hc : c ∈ n.children := List.mem_of_find?_eq_some hchild
      obtain ⟨before, after, hsplit, hgraft⟩ :=
        graft_of_child h.here.spreads.segments_nodup hchild slots terminal rest next
      have hmissing : n.missing (p :: rest) = c.missing rest := by simp [missing, hchild]
      rw [hgraft, hmissing, ids_eq n, hsplit, ids_eq]
      simp only [List.flatMap_append, List.flatMap_cons, List.cons_append, List.append_assoc]
      have hinner := ih next (h.child hc)
      refine (List.Perm.append_left _ ?_).cons _
      refine (hinner.append_right _).trans ?_
      rw [List.append_assoc]
      exact List.Perm.append_left _ List.perm_append_comm
    | none =>
      have hmissing : n.missing (p :: rest) = rest.length + 1 := by simp [missing, hchild]
      have hnew : Represents [] [p.raw] ({ fresh next p with slots := slots } : PathNode α) :=
        represents_of_new rfl rfl (by simp)
      have hinner := ih (next + 1) hnew
      rw [missing_of_no_children rfl, ids_eq { fresh next p with slots := slots }] at hinner
      rw [graft_of_no_child hchild, hmissing, ids_eq n, ids_eq, List.range'_succ]
      simp only [List.flatMap_append, List.flatMap_cons, List.flatMap_nil, List.append_nil,
        List.cons_append]
      exact (hinner.append_left _).cons _

end PathNode

namespace PathTrie

variable {α : Type}

/-- Each number below the number of nodes belongs to exactly one node. -/
def Numbered (t : PathTrie α) : Prop := t.root.ids.Perm (List.range t.nodeCount)

theorem empty_numbered : (empty : PathTrie α).Numbered := by
  simp [Numbered, PathNode.ids_eq, empty]

theorem Numbered.add {log : History α} {t : PathTrie α} (hids : t.Numbered)
    (h : t.root.Represents log []) (r : Registration α) : (t.add r).Numbered := by
  have hgraft := PathNode.ids_graft (ParamSlot.ofParts 0 r.parts) r.terminal r.parts
    t.nodeCount h
  refine hgraft.trans ?_
  rw [PathTrie.add, List.range_eq_range', ← List.range'_append_1, ← List.range_eq_range',
    Nat.zero_add]
  exact hids.append_right _

theorem numbered_insert {log : History α} {t : PathTrie α} (h : t.root.Represents log [])
    (hids : t.Numbered) (pattern : String) (value : α) : (t.insert pattern value).2.Numbered := by
  rcases insert_cases t pattern value with ⟨e, hinsert, _⟩ | ⟨r, _, _, _, _, hinsert⟩
  · rw [hinsert]
    exact hids
  · rw [hinsert]
    exact hids.add h r

theorem numbered_insertAll {log : History α} {t : PathTrie α} (h : t.root.Represents log [])
    (hids : t.Numbered) (calls : List (String × α)) : (t.insertAll calls).Numbered := by
  induction calls generalizing log t with
  | nil => exact hids
  | cons call rest ih =>
    exact ih (represents_insert h call.1 call.2) (numbered_insert h hids call.1 call.2)

theorem numbered_run (calls : List (String × α)) :
    ((empty : PathTrie α).insertAll calls).Numbered :=
  numbered_insertAll empty_represents empty_numbered calls

namespace Numbered

variable {t : PathTrie α}

theorem nodup (h : t.Numbered) : t.root.ids.Nodup := (List.Perm.nodup_iff h).2 List.nodup_range

theorem id_lt (h : t.Numbered) {n : PathNode α} (hn : n ∈ t.root.preorder) :
    n.id < t.nodeCount :=
  List.mem_range.1 ((List.Perm.mem_iff h).1 (List.mem_map_of_mem hn))

theorem node?_eq (h : t.Numbered) {n : PathNode α} (hn : n ∈ t.root.preorder) :
    t.node? n.id = some n := find?_eq_some_of_nodup PathNode.id h.nodup hn

theorem node?_isSome (h : t.Numbered) {id : Nat} (hid : id < t.nodeCount) :
    (t.node? id).isSome = true := by
  have hmem : id ∈ t.root.ids := (List.Perm.mem_iff h).2 (List.mem_range.2 hid)
  obtain ⟨n, hn, rfl⟩ := List.mem_map.1 hmem
  rw [h.node?_eq hn]
  rfl

theorem nodes_getElem? (h : t.Numbered) {n : PathNode α} (hn : n ∈ t.root.preorder) :
    t.nodes[n.id]? = some n := by
  have hlen : ∀ k ≤ t.nodeCount, ((List.range k).filterMap t.node?).length = k := by
    intro k hk
    induction k with
    | zero => rfl
    | succ k ih =>
      have hsome : (t.node? k).isSome = true := h.node?_isSome (by omega)
      obtain ⟨m, hm⟩ := Option.isSome_iff_exists.1 hsome
      simp [List.range_succ, List.filterMap_append, hm, ih (by omega)]
  have hlt := h.id_lt hn
  obtain ⟨k, hk⟩ := Nat.exists_eq_add_of_lt hlt
  have hsplit : List.range t.nodeCount =
      List.range n.id ++ n.id :: List.range' (n.id + 1) k := by
    rw [← List.range'_succ, List.range_eq_range', List.range_eq_range', hk, Nat.add_assoc,
      ← List.range'_append_1, Nat.zero_add]
  unfold nodes
  rw [hsplit, List.filterMap_append, List.filterMap_cons, h.node?_eq hn]
  have hplace := hlen n.id (by omega)
  simp [hplace]

end Numbered

end PathTrie

end RequestRouting

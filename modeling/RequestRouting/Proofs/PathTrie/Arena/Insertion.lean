import RequestRouting.Proofs.PathTrie.Arena.Lookup

/-!
# Insertions in the arena and in the tree

An insertion leaves in the arena the nodes of the larger tree, and all others as they were. After
any run of insertions the arena is that of the tree, and both answer alike.
-/

set_option autoImplicit false

namespace RequestRouting

variable {α : Type}

theorem PathNode.preorder_of_childless {n : PathNode α} (h : n.children = []) :
    n.preorder = [n] := by
  rw [preorder_eq, h]
  rfl

theorem PathNode.ids_of_childless {n : PathNode α} (h : n.children = []) : n.ids = [n.id] := by
  rw [ids, preorder_of_childless h]
  rfl

theorem PathNode.nodup_child {n c : PathNode α} (h : n.ids.Nodup) (hc : c ∈ n.children) :
    c.ids.Nodup ∧ n.id ∉ c.ids := by
  rw [ids_eq, List.nodup_cons] at h
  obtain ⟨hself, hbelow⟩ := h
  exact ⟨(List.nodup_flatMap.1 hbelow).1 c hc, fun hmem => hself (List.mem_flatMap.2 ⟨c, hc, hmem⟩)⟩

theorem PathNode.nodup_sibling {n c d : PathNode α} {before after : List (PathNode α)}
    (h : n.ids.Nodup) (hsplit : n.children = before ++ c :: after) (hd : d ∈ before ++ after) :
    ∀ id ∈ d.ids, id ∉ c.ids := by
  rw [ids_eq, List.nodup_cons, List.nodup_flatMap, hsplit, List.pairwise_middle] at h
  · intro id hid hmem
    exact (List.pairwise_cons.1 h.2.2).1 d hd hmem hid
  · exact fun hdisjoint _ hx hy => hdisjoint hy hx

namespace PathArena

theorem addChild_nodes (a : PathArena α) (node : Nat) (new : ArenaNode α) :
    (a.addChild node new).nodes = (a.nodes ++ [new]).modify node fun n =>
      { n with children := n.children ++ [a.nodes.length] } := rfl

theorem addChild_length (a : PathArena α) (node : Nat) (new : ArenaNode α) :
    (a.addChild node new).nodes.length = a.nodes.length + 1 := by
  rw [addChild_nodes, List.length_modify, List.length_append, List.length_singleton]

theorem addChild_of_ne (a : PathArena α) {node id : Nat} (hne : node ≠ id)
    (hid : id < a.nodes.length) (new : ArenaNode α) :
    (a.addChild node new).nodes[id]? = a.nodes[id]? := by
  rw [addChild_nodes, List.getElem?_modify_ne _ _ hne, List.getElem?_append_left hid]

theorem addChild_last (a : PathArena α) {node : Nat} (hnode : node < a.nodes.length)
    (new : ArenaNode α) : (a.addChild node new).nodes[a.nodes.length]? = some new := by
  rw [addChild_nodes, List.getElem?_modify_ne _ _ (Nat.ne_of_lt hnode), List.getElem?_concat_length]

theorem addChild_self (a : PathArena α) {node : Nat} (hnode : node < a.nodes.length)
    (new : ArenaNode α) : (a.addChild node new).nodes[node]? = a.nodes[node]?.map fun n =>
      { n with children := n.children ++ [a.nodes.length] } := by
  rw [addChild_nodes, List.getElem?_modify_eq, List.getElem?_append_left hnode,
    Option.map_eq_map]

theorem settle_of_ne (a : PathArena α) {node id : Nat} (hne : node ≠ id)
    (slots : List ParamSlot) (terminal : Terminal α) :
    (a.settle node slots terminal).nodes[id]? = a.nodes[id]? :=
  List.getElem?_modify_ne _ _ hne

/-- What becomes of an arena that carries `n` when the parts are followed from there to their last
node, and that is made the end of a pattern. -/
structure Grafts (slots : List ParamSlot) (terminal : Terminal α) (parts : List PatternPart)
    (a : PathArena α) (n : PathNode α) (last : Nat × PathArena α) : Prop where
  carries : (last.2.settle last.1 slots terminal).Carries
    (n.graft slots terminal parts a.nodes.length)
  others : ∀ id < a.nodes.length, id ∉ n.ids →
    (last.2.settle last.1 slots terminal).nodes[id]? = a.nodes[id]?
  length : last.2.nodes.length = a.nodes.length + n.missing parts
  before : last.2.terminal? last.1 = (n.descend? parts).bind (·.terminal)
  terminals : last.2.terminals = a.terminals

section

variable {slots : List ParamSlot} {terminal : Terminal α} {a : PathArena α} {n c : PathNode α}
  {p : PatternPart} {rest : List PatternPart} {last : Nat × PathArena α}

theorem grafts_nil (h : a.Carries n) (hids : n.ids.Nodup) :
    Grafts slots terminal [] a n (n.id, a) where
  carries m hm := by
    rw [PathNode.graft, PathNode.preorder_eq] at hm
    rcases List.mem_cons.1 hm with rfl | hm
    · refine (List.getElem?_modify_eq _ _ _).trans ?_
      rw [h.here]
      rfl
    · obtain ⟨c, hc, hm⟩ := List.mem_flatMap.1 hm
      have hne : n.id ≠ m.id := fun heq =>
        (PathNode.nodup_child hids hc).2 (heq ▸ List.mem_map_of_mem hm)
      rw [settle_of_ne _ hne]
      exact h.child hc m hm
  others id _ hid := by
    refine settle_of_ne _ ?_ _ _
    rintro rfl
    exact hid n.mem_ids_self
  length := rfl
  before := h.terminal?_eq
  terminals := rfl

theorem Grafts.through (hsiblings : (n.children.map (·.segment)).Nodup) (h : a.Carries n)
    (hids : n.ids.Nodup) (hlt : ∀ id ∈ n.ids, id < a.nodes.length)
    (hchild : n.child? p.raw = some c) (hrest : Grafts slots terminal rest a c last) :
    Grafts slots terminal (p :: rest) a n last where
  carries := by
    obtain ⟨before, after, hsplit, hgraft⟩ :=
      PathNode.graft_of_child hsiblings hchild slots terminal rest a.nodes.length
    have hc : c ∈ n.children := List.mem_of_find?_eq_some hchild
    have hkept {m : PathNode α} (hm : m ∈ n.preorder) (hother : m.id ∉ c.ids) :
        (last.2.settle last.1 slots terminal).nodes[m.id]? = some m.flat :=
      (hrest.others m.id (hlt m.id (List.mem_map_of_mem hm)) hother).trans (h m hm)
    have hbeside {d m : PathNode α} (hd : d ∈ before ++ after) (hm : m ∈ d.preorder) :
        (last.2.settle last.1 slots terminal).nodes[m.id]? = some m.flat := by
      have hchild : d ∈ before ++ c :: after :=
        List.mem_append.2 ((List.mem_append.1 hd).imp_right (List.mem_cons_of_mem c))
      exact hkept (PathNode.mem_preorder_of_child (hsplit ▸ hchild) hm)
        (PathNode.nodup_sibling hids hsplit hd m.id (List.mem_map_of_mem hm))
    intro m hm
    rw [hgraft, PathNode.preorder_eq] at hm
    rcases List.mem_cons.1 hm with rfl | hm
    · have hflat : PathNode.flat { n with
          children := before ++ c.graft slots terminal rest a.nodes.length :: after } = n.flat := by
        simp [PathNode.flat, hsplit]
      rw [hflat]
      exact hkept n.mem_preorder_self (PathNode.nodup_child hids hc).2
    · obtain ⟨d, hd, hm⟩ := List.mem_flatMap.1 hm
      rcases List.mem_append.1 hd with hd | hd
      · exact hbeside (List.mem_append_left _ hd) hm
      · rcases List.mem_cons.1 hd with rfl | hd
        · exact hrest.carries m hm
        · exact hbeside (List.mem_append_right _ hd) hm
  others id hid hmem := hrest.others id hid fun hc =>
    hmem (PathNode.mem_ids_of_child (List.mem_of_find?_eq_some hchild) hc)
  length := by rw [hrest.length, PathNode.missing, hchild]
  before := by rw [hrest.before, PathNode.descend?, hchild, Option.bind_some]
  terminals := hrest.terminals

theorem Grafts.beyond (h : a.Carries n) (hids : n.ids.Nodup)
    (hlt : ∀ id ∈ n.ids, id < a.nodes.length) (hchild : n.child? p.raw = none)
    (hrest : Grafts slots terminal rest
      (a.addChild n.id ⟨p.raw, .ofSegment p.segment, [], slots, none⟩)
      { PathNode.fresh a.nodes.length p with slots := slots } last) :
    Grafts slots terminal (p :: rest) a n last where
  carries := by
    have hself : n.id < a.nodes.length := hlt n.id n.mem_ids_self
    have hnew (id : Nat) (hid : id < a.nodes.length) :
        (last.2.settle last.1 slots terminal).nodes[id]? =
          (a.addChild n.id ⟨p.raw, .ofSegment p.segment, [], slots, none⟩).nodes[id]? := by
      refine hrest.others id ?_ ?_
      · rw [addChild_length]
        exact Nat.lt_succ_of_lt hid
      · rw [PathNode.ids_of_childless rfl, List.mem_singleton]
        exact Nat.ne_of_lt hid
    have hcarries := hrest.carries
    rw [addChild_length] at hcarries
    rw [PathNode.graft_of_no_child hchild]
    intro m hm
    rw [PathNode.preorder_eq] at hm
    rcases List.mem_cons.1 hm with rfl | hm
    · rw [hnew _ hself, addChild_self _ hself, h.here]
      simp [PathNode.flat, PathNode.fresh]
    · rw [List.flatMap_append, List.mem_append, List.flatMap_singleton] at hm
      rcases hm with hm | hm
      · obtain ⟨c, hc, hm⟩ := List.mem_flatMap.1 hm
        have hbelow := PathNode.mem_preorder_of_child hc hm
        have hid := hlt m.id (List.mem_map_of_mem hbelow)
        have hne : n.id ≠ m.id := fun heq =>
          (PathNode.nodup_child hids hc).2 (heq ▸ List.mem_map_of_mem hm)
        rw [hnew _ hid, addChild_of_ne _ hne hid]
        exact h m hbelow
      · exact hcarries m hm
  others id hid hmem := by
    have hne : n.id ≠ id := fun heq => hmem (heq ▸ n.mem_ids_self)
    rw [hrest.others id (by rw [addChild_length]; exact Nat.lt_succ_of_lt hid) ?_,
      addChild_of_ne _ hne hid]
    rw [PathNode.ids_of_childless rfl, List.mem_singleton]
    exact Nat.ne_of_lt hid
  length := by
    have hmissing : n.missing (p :: rest) = rest.length + 1 := by
      simp [PathNode.missing, hchild]
    rw [hrest.length, addChild_length, PathNode.missing_of_no_children rfl, hmissing]
    omega
  before := by
    rw [hrest.before, PathNode.descend?, hchild]
    cases rest <;> rfl
  terminals := hrest.terminals

theorem grafts_extend (slots : List ParamSlot) (terminal : Terminal α) (parts : List PatternPart)
    {log : History α} {path : List String} (hrepresents : n.Represents log path)
    (h : a.Carries n) (hids : n.ids.Nodup) (hlt : ∀ id ∈ n.ids, id < a.nodes.length) :
    Grafts slots terminal parts a n (a.extend slots parts n.id) := by
  induction parts generalizing log path a n with
  | nil => exact grafts_nil h hids
  | cons p rest ih =>
    rw [extend, h.findChild?_eq]
    cases hchild : n.child? p.raw with
    | some c =>
      have hc : c ∈ n.children := List.mem_of_find?_eq_some hchild
      exact .through hrepresents.here.spreads.segments_nodup h hids hlt hchild
        (ih (hrepresents.child hc) (h.child hc) (PathNode.nodup_child hids hc).1
          fun id hid => hlt id (PathNode.mem_ids_of_child hc hid))
    | none =>
      let new : PathNode α := { PathNode.fresh a.nodes.length p with slots := slots }
      have hself : n.id < a.nodes.length := hlt n.id n.mem_ids_self
      have hnew : new.Represents [] [p.raw] := PathNode.represents_of_new rfl rfl (by simp)
      refine .beyond h hids hlt hchild (ih hnew ?_ ?_ ?_)
      · intro m hm
        rw [PathNode.preorder_of_childless rfl, List.mem_singleton] at hm
        rw [hm]
        exact addChild_last a hself _
      · rw [PathNode.ids_of_childless rfl]
        exact List.nodup_singleton _
      · rw [PathNode.ids_of_childless rfl, addChild_length]
        exact fun id hid => List.mem_singleton.1 hid ▸ Nat.lt_succ_self _

end

def ofTrie (t : PathTrie α) : PathArena α := ⟨t.nodes.map PathNode.flat, t.size⟩

variable {t : PathTrie α} {log : History α}

theorem ofTrie_carries (h : t.Numbered) : (ofTrie t).Carries t.root := by
  intro m hm
  rw [ofTrie, List.getElem?_map, h.nodes_getElem? hm]
  rfl

theorem eq_ofTrie {a : PathArena α} (hnumbered : t.Numbered) (h : a.Carries t.root)
    (hlength : a.nodes.length = t.nodeCount) (hsize : a.terminals = t.size) : a = ofTrie t := by
  have hnodes : a.nodes = t.nodes.map PathNode.flat := by
    refine List.ext_getElem? fun id => ?_
    rw [List.getElem?_map]
    by_cases hid : id < t.nodeCount
    · have hmem : id ∈ t.root.ids := (List.Perm.mem_iff hnumbered).2 (List.mem_range.2 hid)
      obtain ⟨n, hn, rfl⟩ := List.mem_map.1 hmem
      rw [h n hn, hnumbered.nodes_getElem? hn]
      rfl
    · have hpast : t.nodes.length ≤ id := hnumbered.length_nodes ▸ Nat.le_of_not_lt hid
      rw [List.getElem?_eq_none (hlength ▸ Nat.le_of_not_lt hid), List.getElem?_eq_none hpast]
      rfl
  cases a
  rw [ofTrie]
  exact congrArg₂ PathArena.mk hnodes hsize

theorem insert_ofTrie (h : t.Embodies log) (pattern : String) (value : α) :
    (ofTrie t).insert pattern value =
      ((t.insert pattern value).1, ofTrie (t.insert pattern value).2) := by
  have hcarries := ofTrie_carries h.numbered
  have hroot := h.root_id
  have hlength : (ofTrie t).nodes.length = t.nodeCount := by
    rw [ofTrie, List.length_map, h.numbered.length_nodes]
  rw [insert, PathTrie.insert]
  cases hparse : Pattern.parse pattern with
  | error e => rfl
  | ok parts =>
    have hclash := hcarries.clash?_eq parts
    rw [hroot] at hclash
    simp only [hclash]
    cases hfree : t.root.clash? parts with
    | some clash => rfl
    | none =>
      let r : Registration α := ⟨pattern, value, parts, hparse⟩
      have hadd : (t.add r).Numbered := (h.add hfree).numbered
      obtain ⟨hafter, -, hcount, hbefore, hkept⟩ :=
        grafts_extend (ParamSlot.ofParts 0 parts) ⟨pattern, value⟩ parts h.represents hcarries
          h.numbered.nodup fun id hid => by
            obtain ⟨n, hn, rfl⟩ := List.mem_map.1 hid
            exact hlength ▸ h.numbered.id_lt hn
      rw [hroot, hlength] at hafter hcount
      rw [hroot] at hbefore hkept
      simp only [hbefore]
      refine Prod.ext rfl (eq_ofTrie hadd hafter ?_ ?_)
      · exact (List.length_modify _ _ _).trans hcount
      · rw [settle, hbefore, hkept]
        rfl

def insertAll (a : PathArena α) : List (String × α) → PathArena α
  | [] => a
  | (pattern, value) :: rest => insertAll (a.insert pattern value).2 rest

theorem insertAll_ofTrie (h : t.Embodies log) (calls : List (String × α)) :
    (ofTrie t).insertAll calls = ofTrie (t.insertAll calls) := by
  induction calls generalizing log t with
  | nil => rfl
  | cons call rest ih =>
    obtain ⟨pattern, value⟩ := call
    rw [insertAll, PathTrie.insertAll, insert_ofTrie h]
    exact ih (h.insert pattern value)

theorem search_ofTrie (h : t.Embodies log) (path : String) :
    (ofTrie t).search path = t.search path := by
  have hcarries := ofTrie_carries h.numbered
  have hwalk := hcarries.walk_eq (pathParts path)
  rw [h.root_id] at hwalk
  rw [search, PathTrie.search_eq, hwalk]
  cases hfound : t.root.walk (pathParts path) with
  | none => rfl
  | some n =>
    have hn := (hcarries.below (PathNode.mem_preorder_of_walk hfound)).here
    simp only [Option.map_some, Option.bind_some, hn]
    rfl

theorem get?_ofTrie (h : t.Embodies log) (pattern : String) :
    (ofTrie t).get? pattern = t.get? pattern := by
  rw [get?, PathTrie.get?]
  cases Pattern.parse pattern with
  | error e => rfl
  | ok parts =>
    have hcarries := ofTrie_carries h.numbered
    have hdescend := hcarries.descend?_eq parts
    rw [h.root_id] at hdescend
    simp only [hdescend]
    cases hfound : t.root.descend? parts with
    | none => rfl
    | some n =>
      have hn := (hcarries.below (PathNode.mem_preorder_of_descend? hfound)).terminal?_eq
      simp only [Option.map_some, Option.bind_some, hn]

theorem patterns_ofTrie (h : t.Embodies log) : (ofTrie t).patterns = t.patterns := by
  have hcarries := ofTrie_carries h.numbered
  have hfuel : ([t.root].flatMap PathNode.preorder).length ≤ (ofTrie t).nodes.length := by
    rw [List.flatMap_singleton, ofTrie, List.length_map, h.numbered.nodes_perm.length_eq]
  have hloop := Carries.unstack_eq (fun n hn => List.mem_singleton.1 hn ▸ hcarries) hfuel
  rw [List.map_singleton, h.root_id, List.flatMap_singleton] at hloop
  rw [patterns, hloop, List.filterMap_map, PathTrie.patterns]
  refine List.filterMap_congr fun n hn => ?_
  rw [Function.comp_apply, (hcarries.below hn).terminal?_eq]

/-- Whatever the tree is asked, the arena answers the same. -/
structure Answers (a : PathArena α) (t : PathTrie α) : Prop where
  insert : ∀ pattern value, (a.insert pattern value).1 = (t.insert pattern value).1
  search : ∀ path, a.search path = t.search path
  get : ∀ pattern, a.get? pattern = t.get? pattern
  patterns : a.patterns = t.patterns
  size : a.terminals = t.size
  nodeCount : a.nodes.length = t.nodeCount

theorem ofTrie_answers (h : t.Embodies log) : (ofTrie t).Answers t where
  insert pattern value := congrArg Prod.fst (insert_ofTrie h pattern value)
  search := search_ofTrie h
  get := get?_ofTrie h
  patterns := patterns_ofTrie h
  size := rfl
  nodeCount := by rw [ofTrie, List.length_map, h.numbered.length_nodes]

/-- After any run of insertions, those that are refused included, the nodes of the arena are those
of the tree, and both give the same answers. -/
theorem answers_insertAll (calls : List (String × α)) :
    empty.insertAll calls = ofTrie (PathTrie.empty.insertAll calls) ∧
      (empty.insertAll calls).Answers (PathTrie.empty.insertAll calls) := by
  have hrun : empty.insertAll calls = ofTrie (PathTrie.empty.insertAll calls) :=
    insertAll_ofTrie PathTrie.empty_embodies calls
  refine ⟨hrun, ?_⟩
  rw [hrun]
  exact ofTrie_answers (PathTrie.empty_embodies.insertAll calls)

theorem children_lt_length (calls : List (String × α)) {id child : Nat} {n : ArenaNode α}
    (hn : (empty.insertAll calls).nodes[id]? = some n) (hchild : child ∈ n.children) :
    id < child ∧ child < (empty.insertAll calls).nodes.length := by
  have hembodies := PathTrie.empty_embodies.insertAll calls
  have hnodes : (empty.insertAll calls).nodes =
      (PathTrie.empty.insertAll calls).nodes.map PathNode.flat := by
    rw [(answers_insertAll calls).1]
    rfl
  rw [hnodes, List.getElem?_map, Option.map_eq_some_iff] at hn
  obtain ⟨m, hm, rfl⟩ := hn
  obtain ⟨c, hc, rfl⟩ := List.mem_map.1 hchild
  have hplace : m.id = id := hembodies.numbered.id_eq_of_getElem? hm
  obtain ⟨hthere, hlt⟩ := hembodies.segmentTree.child m (List.mem_of_getElem? hm) c hc
  rw [hnodes, List.length_map]
  exact ⟨hplace ▸ hlt, (List.getElem?_eq_some_iff.1 hthere).1⟩

end PathArena

end RequestRouting

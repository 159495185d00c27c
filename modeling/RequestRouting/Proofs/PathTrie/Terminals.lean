import RequestRouting.Proofs.PathTrie.Numbering

/-!
# The terminals of a trie

The terminals below a node are the latest registrations that lead through it, each found once.
The size of a trie is their number.
-/

set_option autoImplicit false

namespace RequestRouting

namespace PathNode

variable {α : Type} {log : History α} {path : List String} {n : PathNode α}

def terminals (n : PathNode α) : List (Terminal α) := n.preorder.filterMap (·.terminal)

theorem terminals_eq (n : PathNode α) :
    n.terminals = n.terminal.toList ++ n.children.flatMap terminals := by
  rw [terminals, preorder_eq, List.filterMap_cons, List.filterMap_flatMap]
  cases n.terminal <;> rfl

theorem Represents.stored (h : Represents log path n) (parts : List PatternPart) :
    (n.descend? parts).bind (·.terminal) =
      (log.latest? (path ++ parts.map (·.raw))).map Registration.terminal := by
  induction parts generalizing path n with
  | nil => simpa [descend?] using h.here.terminal
  | cons p rest ih =>
    rw [descend?]
    cases hchild : n.child? p.raw with
    | some c =>
      have hraw : c.segment = p.raw := by simpa using List.find?_some hchild
      have hbelow := ih (h.child (List.mem_of_find?_eq_some hchild))
      rw [hraw] at hbelow
      simpa using hbelow
    | none =>
      cases hlatest : log.latest? (path ++ (p :: rest).map (·.raw)) with
      | none => rfl
      | some r =>
        obtain ⟨hmem, hraws⟩ := History.latest?_eq_some hlatest
        have hlead : path ++ [p.raw] <+: r.raws := ⟨rest.map (·.raw), by simp [hraws]⟩
        have hsome := child?_isSome_iff.2
          ((h.here.spreads.heads p.raw).2 (History.introduced_lt_iff.2 ⟨r, hmem, hlead⟩))
        rw [hchild] at hsome
        cases hsome

theorem eq_or_next_of_leading {raws : List String} (h : path <+: raws) :
    raws = path ∨ ∃ raw, path ++ [raw] <+: raws := by
  obtain ⟨tail, rfl⟩ := h
  cases tail with
  | nil => exact .inl (List.append_nil path)
  | cons raw tail => exact .inr ⟨raw, tail, by simp⟩

theorem Represents.mem_terminals (h : Represents log path n) {t : Terminal α} :
    t ∈ n.terminals ↔
      ∃ r, log.latest? r.raws = some r ∧ path <+: r.raws ∧ r.terminal = t := by
  induction h with
  | @node path n here _ ih =>
    rw [terminals_eq, List.mem_append, Option.mem_toList, List.mem_flatMap, here.terminal,
      Option.map_eq_some_iff]
    constructor
    · rintro (⟨r, hlatest, ht⟩ | ⟨c, hc, ht⟩)
      · have hraws := (History.latest?_eq_some hlatest).2
        exact ⟨r, hraws.symm ▸ hlatest, hraws ▸ List.prefix_rfl, ht⟩
      · obtain ⟨r, hlatest, hlead, hr⟩ := (ih c hc).1 ht
        exact ⟨r, hlatest, (List.prefix_append _ _).trans hlead, hr⟩
    · rintro ⟨r, hlatest, hlead, hr⟩
      rcases eq_or_next_of_leading hlead with hraws | ⟨raw, hnext⟩
      · exact .inl ⟨r, hraws ▸ hlatest, hr⟩
      · have hmem := (History.latest?_eq_some hlatest).1
        obtain ⟨c, hc, rfl⟩ :=
          (here.spreads.heads raw).2 (History.introduced_lt_iff.2 ⟨r, hmem, hnext⟩)
        exact .inr ⟨c, hc, (ih c hc).2 ⟨r, hlatest, hnext, hr⟩⟩

theorem Represents.leading_of_terminal (h : Represents log path n) {raws : List String}
    (hraws : raws ∈ n.terminals.map fun t => pathParts t.pattern) : path <+: raws := by
  obtain ⟨t, ht, rfl⟩ := List.mem_map.1 hraws
  obtain ⟨r, _, hlead, rfl⟩ := h.mem_terminals.1 ht
  exact r.raws_eq ▸ hlead

theorem Represents.parts_of_terminal (h : Represents log path n) {t : Terminal α}
    (ht : n.terminal = some t) : pathParts t.pattern = path := by
  rw [h.here.terminal, Option.map_eq_some_iff] at ht
  obtain ⟨r, hlatest, rfl⟩ := ht
  exact r.raws_eq.symm.trans (History.latest?_eq_some hlatest).2

theorem Represents.terminals_ordered (h : Represents log path n) :
    (n.terminals.map fun t => pathParts t.pattern).Pairwise log.Before := by
  induction h with
  | @node path n here inner ih =>
    rw [terminals_eq, List.map_append, List.map_flatMap, List.pairwise_append,
      List.pairwise_flatMap]
    refine ⟨?_, ⟨ih, here.spreads.order.imp_of_mem ?_⟩, ?_⟩
    · cases n.terminal <;> simp
    · intro c d hc hd hlt raws hrawsc raws' hrawsd
      refine .inr ⟨path, c.segment, d.segment, ?_, (inner c hc).leading_of_terminal hrawsc,
        (inner d hd).leading_of_terminal hrawsd, hlt⟩
      intro heq
      rw [heq] at hlt
      exact Nat.lt_irrefl _ hlt
    · intro raws hown raws' hbelow
      obtain ⟨c, hc, hbelow⟩ := List.mem_flatMap.1 hbelow
      have hlead := (inner c hc).leading_of_terminal hbelow
      obtain ⟨t, ht, rfl⟩ := List.mem_map.1 hown
      rw [(Represents.node here inner).parts_of_terminal (Option.mem_toList.1 ht)]
      refine .inl ⟨(List.prefix_append path _).trans hlead, ?_⟩
      rintro rfl
      have hlength := hlead.length_le
      rw [List.length_append, List.length_singleton] at hlength
      omega

theorem Represents.terminals_nodup (h : Represents log path n) :
    (n.terminals.map fun t => pathParts t.pattern).Nodup :=
  h.terminals_ordered.imp History.Before.ne

end PathNode

namespace PathTrie

variable {α : Type} {log : History α} {t : PathTrie α}

def terminals (t : PathTrie α) : List (Terminal α) := t.root.terminals

def keys (t : PathTrie α) : List (List String) := t.terminals.map fun x => pathParts x.pattern

theorem length_keys (t : PathTrie α) : t.keys.length = t.terminals.length := List.length_map _

theorem stored?_eq (h : t.root.Represents log []) (r : Registration α) :
    t.stored? r.parts = (log.latest? r.raws).map Registration.terminal := h.stored r.parts

theorem mem_terminals_iff (h : t.root.Represents log []) {x : Terminal α} :
    x ∈ t.terminals ↔ ∃ r, log.latest? r.raws = some r ∧ r.terminal = x := by
  rw [terminals, h.mem_terminals]
  simp

theorem keys_nodup (h : t.root.Represents log []) : t.keys.Nodup := h.terminals_nodup

theorem mem_keys_iff (h : t.root.Represents log []) {raws : List String} :
    raws ∈ t.keys ↔ ∃ r ∈ log, r.raws = raws := by
  rw [← History.latest?_isSome_iff, keys, List.mem_map]
  constructor
  · rintro ⟨x, hx, rfl⟩
    obtain ⟨r, hlatest, rfl⟩ := (mem_terminals_iff h).1 hx
    have hraws : r.raws = pathParts r.terminal.pattern := r.raws_eq
    rw [← hraws, hlatest]
    rfl
  · intro hsome
    obtain ⟨r, hlatest⟩ := Option.isSome_iff_exists.1 hsome
    obtain ⟨_, rfl⟩ := History.latest?_eq_some hlatest
    exact ⟨r.terminal, (mem_terminals_iff h).2 ⟨r, hlatest, rfl⟩, r.raws_eq.symm⟩

theorem stored?_isSome_iff (h : t.root.Represents log []) (r : Registration α) :
    (t.stored? r.parts).isSome = true ↔ r.raws ∈ t.keys := by
  rw [mem_keys_iff h, stored?_eq h, Option.isSome_map, History.latest?_isSome_iff]

theorem mem_keys_add (h : t.root.Represents log []) (r : Registration α) {raws : List String} :
    raws ∈ (t.add r).keys ↔ raws = r.raws ∨ raws ∈ t.keys := by
  rw [mem_keys_iff (represents_add h r), mem_keys_iff h]
  simp only [List.mem_append, List.mem_singleton]
  constructor
  · rintro ⟨s, hs | rfl, rfl⟩
    · exact .inr ⟨s, hs, rfl⟩
    · exact .inl rfl
  · rintro (rfl | ⟨s, hs, rfl⟩)
    · exact ⟨r, .inr rfl, rfl⟩
    · exact ⟨s, .inl hs, rfl⟩

/-- The size counts the terminals. -/
def Counted (t : PathTrie α) : Prop := t.size = t.terminals.length

theorem empty_counted : (empty : PathTrie α).Counted := by
  simp [Counted, empty, terminals, PathNode.terminals_eq]

theorem Counted.add (hcounted : t.Counted) (h : t.root.Represents log []) (r : Registration α) :
    (t.add r).Counted := by
  have hnodup := keys_nodup h
  have hadded := keys_nodup (represents_add h r)
  have hkeys : (t.add r).keys.length =
      if (t.stored? r.parts).isSome then t.keys.length else t.keys.length + 1 := by
    split
    · rename_i hold
      rw [stored?_isSome_iff h] at hold
      refine ((List.perm_ext_iff_of_nodup hadded hnodup).2 fun raws => ?_).length_eq
      rw [mem_keys_add h]
      exact ⟨fun hraws => hraws.elim (fun heq => heq ▸ hold) id, .inr⟩
    · rename_i hnew
      rw [stored?_isSome_iff h] at hnew
      refine ((List.perm_ext_iff_of_nodup hadded
        (List.nodup_cons.2 ⟨hnew, hnodup⟩)).2 fun raws => ?_).length_eq
      rw [mem_keys_add h, List.mem_cons]
  rw [length_keys, length_keys] at hkeys
  rw [Counted, hkeys, PathTrie.add, hcounted]

end PathTrie

end RequestRouting

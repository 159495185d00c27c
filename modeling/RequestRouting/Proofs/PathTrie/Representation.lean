import RequestRouting.Proofs.PathTrie.History

/-!
# What the nodes of a trie stand for

A node stands for the parts that lead to it. Its terminal is the latest registration of exactly
these parts, and its children are the parts that registrations put behind them, in the order of
their introduction. Every insertion that is accepted keeps this.
-/

set_option autoImplicit false

namespace RequestRouting

namespace PathNode

variable {α : Type} {log : History α} {path : List String} {n : PathNode α}

@[simp] theorem graft_segment (slots : List ParamSlot) (terminal : Terminal α)
    (parts : List PatternPart) (next : Nat) (n : PathNode α) :
    (graft slots terminal parts next n).segment = n.segment := by
  cases parts with
  | nil => rfl
  | cons p rest => rw [graft]; split <;> rfl

@[simp] theorem graft_kind (slots : List ParamSlot) (terminal : Terminal α)
    (parts : List PatternPart) (next : Nat) (n : PathNode α) :
    (graft slots terminal parts next n).kind = n.kind := by
  cases parts with
  | nil => rfl
  | cons p rest => rw [graft]; split <;> rfl

@[simp] theorem graft_id (slots : List ParamSlot) (terminal : Terminal α)
    (parts : List PatternPart) (next : Nat) (n : PathNode α) :
    (graft slots terminal parts next n).id = n.id := by
  cases parts with
  | nil => rfl
  | cons p rest => rw [graft]; split <;> rfl

theorem child?_isSome_iff {raw : String} :
    (n.child? raw).isSome = true ↔ ∃ c ∈ n.children, c.segment = raw := by
  simp [child?, List.find?_isSome]

/-- The children of a node are the parts introduced behind `path`, in the order of their
introduction, and each is of the kind that its text is read as. -/
structure Spreads (log : History α) (path : List String) (children : List (PathNode α)) :
    Prop where
  kinds : ∀ c ∈ children, ∃ segment,
    Pattern.readSegment c.segment = .ok segment ∧ c.kind = .ofSegment segment
  heads : ∀ raw, (∃ c ∈ children, c.segment = raw) ↔
    log.introduced (path ++ [raw]) < log.length
  order : children.Pairwise fun c d =>
    log.introduced (path ++ [c.segment]) < log.introduced (path ++ [d.segment])

theorem Spreads.introduced_lt {children : List (PathNode α)} {c : PathNode α}
    (h : Spreads log path children) (hc : c ∈ children) :
    log.introduced (path ++ [c.segment]) < log.length := (h.heads c.segment).1 ⟨c, hc, rfl⟩

theorem Spreads.segments_nodup {children : List (PathNode α)} (h : Spreads log path children) :
    (children.map (·.segment)).Nodup := by
  refine List.pairwise_map.2 (h.order.imp ?_)
  intro c d hlt heq
  rw [heq] at hlt
  exact Nat.lt_irrefl _ hlt

theorem Spreads.map {children : List (PathNode α)} (h : Spreads log path children)
    {f : PathNode α → PathNode α} (hseg : ∀ c, (f c).segment = c.segment)
    (hkind : ∀ c, (f c).kind = c.kind) : Spreads log path (children.map f) := by
  refine ⟨?_, ?_, ?_⟩
  · intro d hd
    obtain ⟨c, hc, rfl⟩ := List.mem_map.1 hd
    rw [hseg, hkind]
    exact h.kinds c hc
  · intro raw
    rw [← h.heads raw]
    simp [hseg]
  · rw [List.pairwise_map]
    simpa only [hseg] using h.order

theorem Spreads.order_append {children : List (PathNode α)} (h : Spreads log path children)
    (r : Registration α) : children.Pairwise fun c d =>
      History.introduced (log ++ [r]) (path ++ [c.segment]) <
        History.introduced (log ++ [r]) (path ++ [d.segment]) := by
  refine h.order.imp_of_mem ?_
  intro c d hc hd hlt
  rw [History.introduced_append_of_lt r (h.introduced_lt hc),
    History.introduced_append_of_lt r (h.introduced_lt hd)]
  exact hlt

theorem Spreads.append_of_old {children : List (PathNode α)} (h : Spreads log path children)
    {r : Registration α}
    (hold : ∀ raw, path ++ [raw] <+: r.raws → log.introduced (path ++ [raw]) < log.length) :
    Spreads (log ++ [r]) path children := by
  refine ⟨h.kinds, ?_, h.order_append r⟩
  · intro raw
    rw [h.heads raw, History.introduced_lt_iff, History.introduced_lt_iff]
    constructor
    · rintro ⟨s, hs, hlead⟩
      exact ⟨s, List.mem_append_left _ hs, hlead⟩
    · rintro ⟨s, hs, hlead⟩
      rcases List.mem_append.1 hs with hs | hs
      · exact ⟨s, hs, hlead⟩
      · rw [List.mem_singleton.1 hs] at hlead
        exact History.introduced_lt_iff.1 (hold raw hlead)

theorem Spreads.append_of_new {children : List (PathNode α)} (h : Spreads log path children)
    {r : Registration α} {new : PathNode α} (segment : Segment)
    (hread : Pattern.readSegment new.segment = .ok segment) (hkind : new.kind = .ofSegment segment)
    (hnew : ¬ log.introduced (path ++ [new.segment]) < log.length)
    (hlead : path ++ [new.segment] <+: r.raws) :
    Spreads (log ++ [r]) path (children ++ [new]) := by
  refine ⟨?_, ?_, ?_⟩
  · intro c hc
    rcases List.mem_append.1 hc with hc | hc
    · exact h.kinds c hc
    · rw [List.mem_singleton.1 hc]
      exact ⟨segment, hread, hkind⟩
  · intro raw
    rw [History.introduced_lt_iff]
    constructor
    · rintro ⟨c, hc, rfl⟩
      rcases List.mem_append.1 hc with hc | hc
      · obtain ⟨s, hs, hs'⟩ := History.introduced_lt_iff.1 (h.introduced_lt hc)
        exact ⟨s, List.mem_append_left _ hs, hs'⟩
      · rw [List.mem_singleton.1 hc]
        exact ⟨r, by simp, hlead⟩
    · rintro ⟨s, hs, hs'⟩
      rcases List.mem_append.1 hs with hs | hs
      · obtain ⟨c, hc, hraw⟩ := (h.heads raw).2 (History.introduced_lt_iff.2 ⟨s, hs, hs'⟩)
        exact ⟨c, List.mem_append_left _ hc, hraw⟩
      · rw [List.mem_singleton.1 hs] at hs'
        have heq : path ++ [raw] = path ++ [new.segment] :=
          (List.prefix_of_prefix_length_le hs' hlead (by simp)).eq_of_length (by simp)
        have hraw : raw = new.segment := by simpa using heq
        exact ⟨new, by simp, hraw.symm⟩
  · have hlast := History.introduced_append_of_new hnew hlead
    rw [List.pairwise_append]
    refine ⟨h.order_append r, List.pairwise_singleton _ _, ?_⟩
    intro c hc d hd
    rw [List.mem_singleton.1 hd, hlast, History.introduced_append_of_lt r (h.introduced_lt hc)]
    exact h.introduced_lt hc

/-- The terminal of the node is the latest registration of exactly the parts that lead to it, and
its slots are then those of this registration. -/
structure Reflects (log : History α) (path : List String) (n : PathNode α) : Prop where
  terminal : n.terminal = (log.latest? path).map Registration.terminal
  slots : ∀ r, log.latest? path = some r → n.slots = ParamSlot.ofParts 0 r.parts
  spreads : Spreads log path n.children

theorem Reflects.append_of_ne {r : Registration α} {m : PathNode α} (h : Reflects log path n)
    (hne : r.raws ≠ path) (hterminal : m.terminal = n.terminal) (hslots : m.slots = n.slots)
    (hspreads : Spreads (log ++ [r]) path m.children) : Reflects (log ++ [r]) path m := by
  refine ⟨?_, ?_, hspreads⟩
  · rw [History.latest?_append_of_ne hne, hterminal]
    exact h.terminal
  · rw [History.latest?_append_of_ne hne, hslots]
    exact h.slots

/-- The node, reached by the parts in `path`, and all below it stand for the history. -/
inductive Represents (log : History α) : List String → PathNode α → Prop where
  | node {path : List String} {n : PathNode α} (here : Reflects log path n)
      (inner : ∀ c ∈ n.children, Represents log (path ++ [c.segment]) c) : Represents log path n

theorem Represents.here (h : Represents log path n) : Reflects log path n := by
  cases h with
  | node here _ => exact here

theorem Represents.child (h : Represents log path n) {c : PathNode α} (hc : c ∈ n.children) :
    Represents log (path ++ [c.segment]) c := by
  cases h with
  | node _ inner => exact inner c hc

theorem Represents.append_of_not_leading {r : Registration α} (h : Represents log path n)
    (hr : ¬ path <+: r.raws) : Represents (log ++ [r]) path n := by
  induction h with
  | @node path n here _ ih =>
    have hne : r.raws ≠ path := fun heq => hr (heq ▸ List.prefix_rfl)
    have hnone : ∀ raw, ¬ path ++ [raw] <+: r.raws :=
      fun raw hlead => hr ((List.prefix_append path [raw]).trans hlead)
    have hspreads : Spreads (log ++ [r]) path n.children :=
      here.spreads.append_of_old fun raw hlead => absurd hlead (hnone raw)
    exact .node (here.append_of_ne hne rfl rfl hspreads) fun c hc => ih c hc (hnone c.segment)

theorem represents_of_new {n : PathNode α} (hterminal : n.terminal = none)
    (hchildren : n.children = []) (hnew : ¬ log.introduced path < log.length) :
    Represents log path n := by
  rw [History.introduced_lt_iff] at hnew
  have hlatest : log.latest? path = none := by
    rw [← Option.not_isSome_iff_eq_none, History.latest?_isSome_iff]
    rintro ⟨r, hr, hraws⟩
    exact hnew ⟨r, hr, hraws ▸ List.prefix_rfl⟩
  refine .node ⟨?_, ?_, ?_⟩ ?_
  · rw [hterminal, hlatest, Option.map_none]
  · intro r hr
    rw [hlatest] at hr
    cases hr
  · rw [hchildren]
    refine ⟨fun c hc => absurd hc List.not_mem_nil, fun raw => ?_, .nil⟩
    rw [History.introduced_lt_iff]
    constructor
    · rintro ⟨c, hc, _⟩
      exact absurd hc List.not_mem_nil
    · rintro ⟨r, hr, hlead⟩
      exact absurd ⟨r, hr, (List.prefix_append path [raw]).trans hlead⟩ hnew
  · intro c hc
    rw [hchildren] at hc
    exact absurd hc List.not_mem_nil

theorem Represents.close {r : Registration α} (hraws : r.raws = path) (h : Represents log path n) :
    Represents (log ++ [r]) path
      { n with slots := ParamSlot.ofParts 0 r.parts, terminal := some r.terminal } := by
  have hnone : ∀ raw, ¬ path ++ [raw] <+: r.raws := by
    intro raw hlead
    have hlen := hlead.length_le
    rw [hraws, List.length_append, List.length_singleton] at hlen
    omega
  have hlatest : History.latest? (log ++ [r]) path = some r := by
    rw [← hraws]
    exact History.latest?_append_self log r
  refine .node ⟨?_, ?_, ?_⟩ ?_
  · rw [hlatest]
    rfl
  · rw [hlatest]
    rintro s ⟨⟩
    rfl
  · exact h.here.spreads.append_of_old fun raw hlead => absurd hlead (hnone raw)
  · intro c hc
    exact (h.child hc).append_of_not_leading (hnone c.segment)

theorem next_unique {raws : List String} {a b : String} (ha : path ++ [a] <+: raws)
    (hb : path ++ [b] <+: raws) : a = b := by
  have heq : path ++ [a] = path ++ [b] :=
    (List.prefix_of_prefix_length_le ha hb (by simp)).eq_of_length (by simp)
  simpa using heq

theorem Represents.through {r : Registration α} {raw : String} (h : Represents log path n)
    (hlead : path ++ [raw] <+: r.raws) (hne : r.raws ≠ path) (hchild : (n.child? raw).isSome = true)
    (f : PathNode α → PathNode α) (hsegment : ∀ c, (f c).segment = c.segment)
    (hkind : ∀ c, (f c).kind = c.kind)
    (hf : ∀ c, Represents log (path ++ [raw]) c → Represents (log ++ [r]) (path ++ [raw]) (f c)) :
    Represents (log ++ [r]) path
      { n with children := n.children.map fun c => if c.segment == raw then f c else c } := by
  have hspreads : Spreads (log ++ [r]) path
      (n.children.map fun c => if c.segment == raw then f c else c) := by
    refine (h.here.spreads.map ?_ ?_).append_of_old ?_
    · intro c
      split
      · exact hsegment c
      · rfl
    · intro c
      split
      · exact hkind c
      · rfl
    · intro raw' hraw'
      rw [next_unique hraw' hlead]
      exact (h.here.spreads.heads raw).1 (child?_isSome_iff.1 hchild)
  refine .node (h.here.append_of_ne hne rfl rfl hspreads) ?_
  intro d hd
  obtain ⟨c, hc, rfl⟩ := List.mem_map.1 hd
  by_cases hraw : c.segment = raw
  · subst hraw
    rw [if_pos (beq_self_eq_true _), hsegment]
    exact hf c (h.child hc)
  · rw [if_neg (by simpa using hraw)]
    exact (h.child hc).append_of_not_leading fun hlead' => hraw (next_unique hlead' hlead)

theorem Represents.beside {r : Registration α} {new : PathNode α} (segment : Segment)
    (h : Represents log path n) (hlead : path ++ [new.segment] <+: r.raws) (hne : r.raws ≠ path)
    (hchild : ¬ (n.child? new.segment).isSome = true)
    (hread : Pattern.readSegment new.segment = .ok segment) (hkind : new.kind = .ofSegment segment)
    (hnew : Represents (log ++ [r]) (path ++ [new.segment]) new) :
    Represents (log ++ [r]) path { n with children := n.children ++ [new] } := by
  have hfresh : ¬ log.introduced (path ++ [new.segment]) < log.length := fun hlt =>
    hchild (child?_isSome_iff.2 ((h.here.spreads.heads new.segment).2 hlt))
  have hspreads := h.here.spreads.append_of_new segment hread hkind hfresh hlead
  refine .node (h.here.append_of_ne hne rfl rfl hspreads) ?_
  intro d hd
  rcases List.mem_append.1 hd with hd | hd
  · have hsegment : d.segment ≠ new.segment := fun heq =>
      hchild (child?_isSome_iff.2 ⟨d, hd, heq⟩)
    exact (h.child hd).append_of_not_leading fun hlead' => hsegment (next_unique hlead' hlead)
  · rw [List.mem_singleton.1 hd]
    exact hnew

/-- Grafting a registration onto a node of its parts adds it to what the node stands for. -/
theorem Represents.graft {r : Registration α} {parts : List PatternPart}
    (hraws : path ++ parts.map (·.raw) = r.raws) (hwell : Pattern.WellFormed parts)
    (h : Represents log path n) (next : Nat) :
    Represents (log ++ [r]) path
      (n.graft (ParamSlot.ofParts 0 r.parts) r.terminal parts next) := by
  induction parts generalizing path n next with
  | nil =>
    have hpath : r.raws = path := by simpa using hraws.symm
    exact h.close hpath
  | cons p rest ih =>
    have hne : r.raws ≠ path := by
      intro heq
      rw [heq] at hraws
      simp at hraws
    have hnext : (path ++ [p.raw]) ++ rest.map (·.raw) = r.raws := by simpa using hraws
    have hlead : path ++ [p.raw] <+: r.raws := ⟨_, hnext⟩
    have hread := hwell.read p List.mem_cons_self
    rw [PathNode.graft]
    split
    · rename_i hchild
      exact h.through hlead hne hchild _ (graft_segment _ _ _ _) (graft_kind _ _ _ _)
        fun c hc => ih hnext hwell.tail hc next
    · rename_i hchild
      have hfresh : ¬ log.introduced (path ++ [p.raw]) < log.length := fun hlt =>
        hchild (child?_isSome_iff.2 ((h.here.spreads.heads p.raw).2 hlt))
      let added : PathNode α := { fresh next p with slots := ParamSlot.ofParts 0 r.parts }
      have hadded : Represents log (path ++ [p.raw]) added := represents_of_new rfl rfl hfresh
      have hnew := ih hnext hwell.tail hadded (next + 1)
      refine h.beside p.segment ?_ hne ?_ ?_ ?_ ?_
      · rwa [graft_segment]
      · rwa [graft_segment]
      · rwa [graft_segment]
      · rw [graft_kind]
        rfl
      · rwa [graft_segment]

end PathNode

end RequestRouting
